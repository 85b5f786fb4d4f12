import FieldConfig.Declaration

set_option autoImplicit false

namespace FieldConfig

structure FederateDevice where
  topic : String
  deviceType : String
  endpoint : Option String
deriving DecidableEq, Repr

namespace FederateDevice

def tagName (device : FederateDevice) : String := withoutFederate device.topic

def ofReference (settings : Settings) (reference : DeviceReference) : FederateDevice :=
  let topic := Settings.qualify settings.defaultFederate reference.fullName
  let federate := String.ofList (topic.toList.takeWhile (· ≠ '/'))
  ⟨topic, reference.deviceType,
    match reference.endpoint with
    | none | some (.enabled true) => settings.defaultEndpoint
    | some (.enabled false) => none
    | some (.named name) => some (Settings.qualify federate name)⟩

def addUnique (node : String) (known : List FederateDevice) :
    List FederateDevice → Except CompileError (List FederateDevice)
  | [] => .ok known
  | device :: rest =>
    match known.find? (·.topic == device.topic) with
    | none => addUnique node (known ++ [device]) rest
    | some same =>
      if same = device then addUnique node known rest
      else .error (.conflict node device.topic)

end FederateDevice

namespace Declaration

def allReferences (declaration : Declaration) : List DeviceReference :=
  declaration.protocols.flatMap Prod.snd

def federateDevices (declaration : Declaration) (settings : Settings) :
    Except CompileError (List FederateDevice) :=
  FederateDevice.addUnique declaration.node []
    (declaration.allReferences.map (.ofReference settings))

end Declaration
end FieldConfig
