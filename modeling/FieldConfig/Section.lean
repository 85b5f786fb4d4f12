import FieldConfig.Protocol

set_option autoImplicit false

namespace FieldConfig

inductive ModbusTable where
  | coil
  | discrete
  | input
  | holding
deriving DecidableEq, Repr, Inhabited

namespace ModbusTable

def name : ModbusTable → String
  | .coil => "coil"
  | .discrete => "discrete"
  | .input => "input"
  | .holding => "holding"

def ofPoint : PointClass → ModbusTable
  | .binaryReadWrite => .coil
  | .binaryRead => .discrete
  | .analogRead => .input
  | .analogReadWrite => .holding

def base : ModbusTable → Nat
  | .coil => 0
  | .discrete => 20000
  | .input => 30000
  | .holding => 40000

def last (table : ModbusTable) : Nat := table.base + 65535

end ModbusTable

structure ModbusEntry where
  table : ModbusTable
  address : Nat
  tag : String
  scaling : Option Int64 := none
deriving DecidableEq, Repr

inductive Direction where
  | input
  | output
deriving DecidableEq, Repr, Inhabited

def Direction.name : Direction → String
  | .input => "input"
  | .output => "output"

inductive PointType where
  | analog
  | binary
deriving DecidableEq, Repr, Inhabited

namespace PointType

def name : PointType → String
  | .analog => "analog"
  | .binary => "binary"

def ofPoint (pointClass : PointClass) : PointType :=
  if pointClass.isAnalog then .analog else .binary

end PointType

structure Dnp3Point where
  direction : Direction
  pointType : PointType
  address : Nat
  tag : String
  sgvar : Option String := none
  egvar : Option String := none
  eventClass : Option String := none
  sbo : Option Bool := none
deriving DecidableEq, Repr

inductive Session where
  | master (name : String) (localAddress remoteAddress scanRate : Nat)
  | outstation (name : String) (localAddress remoteAddress : Nat)
deriving DecidableEq, Repr

def Session.ofMode : Mode → Session
  | .server => .outstation "dnp3-outstation" 1024 1
  | .client => .master "dnp3-master" 1 1024 5

inductive Body where
  | modbus (entries : List ModbusEntry)
  | dnp3 (session : Session) (points : List Dnp3Point)
deriving DecidableEq, Repr

structure Section where
  name : String
  mode : Mode
  endpoint : String
  body : Body
deriving DecidableEq, Repr

def Section.protocol (s : Section) : Protocol :=
  match s.body with
  | .modbus _ => .modbus
  | .dnp3 _ _ => .dnp3

end FieldConfig
