import FieldConfig.Declaration

set_option autoImplicit false

namespace FieldConfig

structure Register where
  device : String
  field : String
  pointClass : PointClass
  deviceType : String
  protocol : Protocol
  modbus : ModbusHints := {}
  dnp3 : Dnp3Hints := {}
  range : Option ValueRange := none
  source : String
deriving DecidableEq, Repr

namespace Register

def tag (register : Register) : String := register.device ++ "." ++ register.field

def kind (register : Register) : RegisterKind :=
  .ofPoint register.protocol register.pointClass

end Register

-- Registers of each protocol; the protocols stand in the order in which they came first.
structure RegisterSet where
  groups : List (Protocol × List Register) := []
deriving DecidableEq, Repr, Inhabited

namespace RegisterSet

def extendGroups (protocol : Protocol) (registers : List Register) :
    List (Protocol × List Register) → List (Protocol × List Register)
  | [] => [(protocol, registers)]
  | (p, known) :: rest =>
    if p = protocol then (p, known ++ registers) :: rest
    else (p, known) :: extendGroups protocol registers rest

def extend (set : RegisterSet) (protocol : Protocol) (registers : List Register) : RegisterSet :=
  ⟨extendGroups protocol registers set.groups⟩

def append (set other : RegisterSet) : RegisterSet :=
  other.groups.foldl (fun set (protocol, registers) => set.extend protocol registers) set

def get? (set : RegisterSet) (protocol : Protocol) : Option (List Register) :=
  set.groups.lookup protocol

def protocols (set : RegisterSet) : List Protocol := set.groups.map Prod.fst

def flatten (set : RegisterSet) : List Register := set.groups.flatMap Prod.snd

def size (set : RegisterSet) : Nat := (set.groups.map fun group => group.2.length).foldr (· + ·) 0

def isEmpty (set : RegisterSet) : Bool := set.groups.all fun group => group.2.isEmpty

end RegisterSet

namespace Declaration

def register (declaration : Declaration) (protocol : Protocol) (reference : DeviceReference)
    (field : String × FieldSpec) : Register where
  device := reference.tagName
  field := field.1
  pointClass := field.2.pointClass
  deviceType := reference.deviceType
  protocol
  modbus := field.2.modbus
  dnp3 := field.2.dnp3
  range := field.2.range
  source := declaration.node

def deviceRegisters (declaration : Declaration) (catalog : Catalog) (protocol : Protocol)
    (reference : DeviceReference) : Except CompileError (List Register) := do
  let fields ← catalog.require declaration.node declaration.infrastructure reference.deviceType
  return fields.entries.map (declaration.register protocol reference)

def groupRegisters (declaration : Declaration) (catalog : Catalog) (protocol : Protocol) :
    List DeviceReference → Except CompileError (List Register)
  | [] => .ok []
  | reference :: rest => do
    let first ← declaration.deviceRegisters catalog protocol reference
    return first ++ (← groupRegisters declaration catalog protocol rest)

def extendRegisters (declaration : Declaration) (catalog : Catalog) (set : RegisterSet) :
    List (Protocol × List DeviceReference) → Except CompileError RegisterSet
  | [] => .ok set
  | (protocol, references) :: rest => do
    let registers ← declaration.groupRegisters catalog protocol references
    extendRegisters declaration catalog (set.extend protocol registers) rest

def registers (declaration : Declaration) (catalog : Catalog) : Except CompileError RegisterSet :=
  declaration.extendRegisters catalog {} declaration.protocols

end Declaration
end FieldConfig
