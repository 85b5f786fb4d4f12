import FieldConfig.Broker
import FieldConfig.Federation

set_option autoImplicit false

/-!
The section that binds the points of a server to the co-simulation. Points that are read subscribe
to their topic; points that can be set go to the message endpoint of their device, or are published
if it has none.
-/
namespace FieldConfig

inductive ValueType where
  | double
  | boolean
deriving DecidableEq, Repr, Inhabited

namespace ValueType

def name : ValueType → String
  | .double => "double"
  | .boolean => "boolean"

def ofPoint (pointClass : PointClass) : ValueType :=
  if pointClass.isAnalog then .double else .boolean

end ValueType

inductive TopicKind where
  | subscription
  | publication
deriving DecidableEq, Repr, Inhabited

def TopicKind.name : TopicKind → String
  | .subscription => "subscription"
  | .publication => "publication"

structure Topic where
  kind : TopicKind
  key : String
  tag : String
  valueType : ValueType
deriving DecidableEq, Repr

structure MessageEndpoint where
  name : String
  tags : List String
deriving DecidableEq, Repr

structure IoSection where
  name : String
  brokerEndpoint : String
  federateName : String
  federateLogLevel : String
  topics : List Topic
  endpoints : List MessageEndpoint
deriving DecidableEq, Repr, Inhabited

structure FederatePoint where
  device : FederateDevice
  field : String
  spec : FieldSpec
deriving DecidableEq, Repr

namespace FederatePoint

def tag (point : FederatePoint) : String := point.device.tagName ++ "." ++ point.field

def topic? (point : FederatePoint) : Option Topic :=
  let valueType := ValueType.ofPoint point.spec.pointClass
  if point.spec.pointClass.isWritable then
    match point.device.endpoint with
    | some _ => none
    | none => some ⟨.publication, point.tag, point.tag, valueType⟩
  else some ⟨.subscription, point.device.topic ++ "." ++ point.field, point.tag, valueType⟩

def endpoint? (point : FederatePoint) : Option (String × String) :=
  if point.spec.pointClass.isWritable then
    point.device.endpoint.map fun name => (name, point.tag)
  else none

end FederatePoint

namespace MessageEndpoint

def addTag (name tag : String) : List MessageEndpoint → List MessageEndpoint
  | [] => [⟨name, [tag]⟩]
  | endpoint :: rest =>
    if endpoint.name = name then { endpoint with tags := endpoint.tags ++ [tag] } :: rest
    else endpoint :: addTag name tag rest

def collect (bindings : List (String × String)) : List MessageEndpoint :=
  bindings.foldl (fun endpoints (name, tag) => addTag name tag endpoints) []

end MessageEndpoint

namespace IoSection

def points (declaration : Declaration) (catalog : Catalog) :
    List FederateDevice → Except CompileError (List FederatePoint)
  | [] => .ok []
  | device :: rest => do
    let fields ← catalog.require declaration.node declaration.infrastructure device.deviceType
    return (fields.entries.map fun (field, spec) => ⟨device, field, spec⟩) ++
      (← points declaration catalog rest)

def broker? (settings : Settings) (node : Node) : Option BrokerSettings :=
  (node.metadata.helics.bind (·.broker)).or settings.helics.broker

def ofPoints (node : Node) (brokerEndpoint : String) (points : List FederatePoint) : IoSection :=
  let federate := node.metadata.helics.bind (·.federate)
  { name := "helics-federate"
    brokerEndpoint
    federateName := (federate.bind (·.name)).getD node.hostname
    federateLogLevel := (federate.bind (·.logLevel)).getD "SUMMARY"
    topics := points.filterMap (·.topic?)
    endpoints := MessageEndpoint.collect (points.filterMap (·.endpoint?)) }

def ofServer (settings : Settings) (catalog : Catalog) (topology : Topology)
    (registry : BrokerRegistry) (node : Node) (declaration : Declaration) :
    BrokerRegistry × Except CompileError (Option IoSection) :=
  match declaration.federateDevices settings with
  | .error fault => (registry, .error fault)
  | .ok [] => (registry, .ok none)
  | .ok devices =>
    match broker? settings node with
    | none => (registry, .error (.noBroker node.hostname))
    | some broker =>
      match registry.resolve topology broker node.hostname with
      | (registry, .error fault) => (registry, .error fault)
      | (registry, .ok address) =>
        (registry,
          (points declaration catalog devices).map fun points =>
            some (ofPoints node address points))

end IoSection
end FieldConfig
