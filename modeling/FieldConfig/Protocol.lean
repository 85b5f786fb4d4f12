set_option autoImplicit false

namespace FieldConfig

inductive Protocol where
  | dnp3
  | modbus
deriving DecidableEq, Repr, Inhabited

namespace Protocol

def all : List Protocol := [.dnp3, .modbus]

def name : Protocol → String
  | .dnp3 => "dnp3"
  | .modbus => "modbus"

def ofName? (text : String) : Option Protocol := all.find? (·.name == text)

def standardSocket : Protocol → UInt16
  | .dnp3 => 20000
  | .modbus => 502

end Protocol

inductive PointClass where
  | analogRead
  | analogReadWrite
  | binaryRead
  | binaryReadWrite
deriving DecidableEq, Repr, Inhabited

namespace PointClass

def all : List PointClass := [.analogRead, .analogReadWrite, .binaryRead, .binaryReadWrite]

def name : PointClass → String
  | .analogRead => "analog-read"
  | .analogReadWrite => "analog-read-write"
  | .binaryRead => "binary-read"
  | .binaryReadWrite => "binary-read-write"

def isAnalog : PointClass → Bool
  | .analogRead | .analogReadWrite => true
  | .binaryRead | .binaryReadWrite => false

def isWritable : PointClass → Bool
  | .analogReadWrite | .binaryReadWrite => true
  | .analogRead | .binaryRead => false

end PointClass

inductive RegisterKind where
  | coil
  | discreteInput
  | inputRegister
  | holdingRegister
  | analogInput
  | analogOutput
  | binaryInput
  | binaryOutput
deriving DecidableEq, Repr, Inhabited

namespace RegisterKind

def ofPoint : Protocol → PointClass → RegisterKind
  | .modbus, .binaryReadWrite => .coil
  | .modbus, .binaryRead => .discreteInput
  | .modbus, .analogRead => .inputRegister
  | .modbus, .analogReadWrite => .holdingRegister
  | .dnp3, .analogRead => .analogInput
  | .dnp3, .analogReadWrite => .analogOutput
  | .dnp3, .binaryRead => .binaryInput
  | .dnp3, .binaryReadWrite => .binaryOutput

def name : RegisterKind → String
  | .coil => "coil"
  | .discreteInput => "discrete-input"
  | .inputRegister => "input-register"
  | .holdingRegister => "holding-register"
  | .analogInput => "analog-input"
  | .analogOutput => "analog-output"
  | .binaryInput => "binary-input"
  | .binaryOutput => "binary-output"

end RegisterKind

inductive Mode where
  | server
  | client
deriving DecidableEq, Repr, Inhabited

def Mode.name : Mode → String
  | .server => "server"
  | .client => "client"

end FieldConfig
