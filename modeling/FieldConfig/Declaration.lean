import FieldConfig.Text.Split
import FieldConfig.Topology

set_option autoImplicit false

namespace FieldConfig

-- The name of a device in tags: what stands between the first and the second slash of its full
-- name, or the whole name if it has none.
def withoutFederate (name : String) : String :=
  match Text.cut? '/' name.toList with
  | none => name
  | some (_, rest) => String.ofList (rest.takeWhile (· ≠ '/'))

structure Override where
  device : String
  deviceType : String
  pointClass : PointClass
  field : String
  kind : RegisterKind
  number : UInt32
deriving DecidableEq, Repr

structure DeviceReference where
  fullName : String
  deviceType : String
  endpoint : Option EndpointSetting := none
  overrides : List Override := []
deriving DecidableEq, Repr

def DeviceReference.tagName (reference : DeviceReference) : String :=
  withoutFederate reference.fullName

structure Declaration where
  node : String
  infrastructure : String
  protocols : List (Protocol × List DeviceReference)
deriving DecidableEq, Repr

namespace Declaration

def reference (node : String) (protocol : Protocol) (index : Nat) (entry : DeviceEntry) :
    Except CompileError DeviceReference :=
  match entry.name, entry.deviceType with
  | none, _ => .error (.missingField node protocol index "name")
  | some _, none => .error (.missingField node protocol index "type")
  | some name, some deviceType =>
    .ok ⟨name, deviceType, entry.endpoint,
      PointClass.all.flatMap fun pointClass =>
        (entry.manual pointClass).map fun manual =>
          ⟨withoutFederate name, deviceType, pointClass, manual.field, manual.kind, manual.number⟩⟩

def references (node : String) (protocol : Protocol) :
    Nat → List DeviceEntry → Except CompileError (List DeviceReference)
  | _, [] => .ok []
  | index, entry :: rest => do
    return (← reference node protocol index entry) ::
      (← references node protocol (index + 1) rest)

def ofProtocols (node : Node) :
    List Protocol → Except CompileError (List (Protocol × List DeviceReference))
  | [] => .ok []
  | protocol :: rest =>
    match node.metadata.protocol protocol with
    | none => ofProtocols node rest
    | some settings => do
      return (protocol, ← references node.hostname protocol 0 settings.devices) ::
        (← ofProtocols node rest)

def ofNode (node : Node) (defaultInfrastructure : String) : Except CompileError Declaration := do
  return ⟨node.hostname, node.metadata.infrastructure.getD defaultInfrastructure,
    ← ofProtocols node Protocol.all⟩

def overrides (declaration : Declaration) : List Override :=
  declaration.protocols.flatMap fun (_, references) => references.flatMap (·.overrides)

end Declaration
end FieldConfig
