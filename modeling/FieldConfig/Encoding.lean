import FieldConfig.Allocation.Dnp3
import FieldConfig.Allocation.Modbus
import FieldConfig.Endpoint

set_option autoImplicit false

/-! Registers as a section of a document. Every section counts its addresses from the start. -/
namespace FieldConfig

inductive Side where
  | serving
  | polling (target : String)
deriving DecidableEq, Repr

namespace Side

def mode : Side → Mode
  | .serving => .server
  | .polling _ => .client

def sectionName (protocol : Protocol) : Side → String
  | .serving => protocol.name ++ "-outstation"
  | .polling target => protocol.name ++ "-" ++ target

end Side

structure Encoding where
  node : String
  side : Side
  endpoint : Endpoint
  overrides : OverrideTable
deriving DecidableEq, Repr

namespace Encoding

def body (encoding : Encoding) (registers : List Register) :
    Protocol → Except CompileError Body
  | .modbus =>
    (Allocation.modbusEntries encoding.node encoding.side.mode encoding.overrides .start
      registers).map .modbus
  | .dnp3 =>
    (Allocation.dnp3Entries encoding.node encoding.overrides .start registers).map
      (.dnp3 (.ofMode encoding.side.mode))

def encode (encoding : Encoding) (protocol : Protocol) (registers : List Register) :
    Except CompileError Section :=
  (encoding.body registers protocol).map fun body =>
    ⟨encoding.side.sectionName protocol, encoding.side.mode, encoding.endpoint.text, body⟩

end Encoding
end FieldConfig
