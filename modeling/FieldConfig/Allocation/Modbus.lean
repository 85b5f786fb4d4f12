import FieldConfig.Allocation.Counter
import FieldConfig.Section

set_option autoImplicit false

namespace FieldConfig.Allocation

structure ModbusCounters where
  coil : Nat
  discrete : Nat
  input : Nat
  holding : Nat
deriving DecidableEq, Repr

namespace ModbusCounters

def start : ModbusCounters :=
  ⟨ModbusTable.base .coil, ModbusTable.base .discrete, ModbusTable.base .input,
    ModbusTable.base .holding⟩

def get (counters : ModbusCounters) : ModbusTable → Nat
  | .coil => counters.coil
  | .discrete => counters.discrete
  | .input => counters.input
  | .holding => counters.holding

def set (counters : ModbusCounters) (table : ModbusTable) (value : Nat) : ModbusCounters :=
  match table with
  | .coil => { counters with coil := value }
  | .discrete => { counters with discrete := value }
  | .input => { counters with input := value }
  | .holding => { counters with holding := value }

end ModbusCounters

-- A server stores the inverse of the exponent that its clients read; bits are not scaled. The least
-- exponent has no inverse in 64 bits and stays as it is; a build that checks for overflow stops there.
def modbusScaling (mode : Mode) (register : Register) : Option Int64 :=
  if register.pointClass.isAnalog then
    register.modbus.scaling.map fun exponent =>
      match mode with
      | .server => -exponent
      | .client => exponent
  else none

-- The next address of the register's table; the counter moves even past the end of the table.
def modbusStep (node : String) (mode : Mode) (overrides : OverrideTable)
    (counters : ModbusCounters) (register : Register) :
    ModbusCounters × Except CompileError ModbusEntry :=
  let table := ModbusTable.ofPoint register.pointClass
  let (counter, taken) :=
    advance (counters.get table) (overrides.lookup register register.kind)
  let address := taken.getD counterLimit
  (counters.set table counter,
    if address ≤ table.last then
      .ok ⟨table, address, register.tag, modbusScaling mode register⟩
    else .error (.exhausted node .modbus table.name address))

def modbusSteps (node : String) (mode : Mode) (overrides : OverrideTable) :
    ModbusCounters → List Register → List (Except CompileError ModbusEntry)
  | _, [] => []
  | counters, register :: rest =>
    let (counters, result) := modbusStep node mode overrides counters register
    result :: modbusSteps node mode overrides counters rest

def modbusEntries (node : String) (mode : Mode) (overrides : OverrideTable) :
    ModbusCounters → List Register → Except CompileError (List ModbusEntry)
  | _, [] => .ok []
  | counters, register :: rest =>
    match modbusStep node mode overrides counters register with
    | (_, .error fault) => .error fault
    | (counters, .ok entry) =>
      (modbusEntries node mode overrides counters rest).map (entry :: ·)

end FieldConfig.Allocation
