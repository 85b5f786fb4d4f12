import FieldConfig.Allocation.Modbus
import FieldConfig.Proofs.Allocation.Counting
import FieldConfig.Proofs.Outcome

set_option autoImplicit false

namespace FieldConfig.Allocation

theorem ModbusCounters.get_set (counters : ModbusCounters) (table : ModbusTable) (value : Nat) :
    (counters.set table value).get = Function.update counters.get table value := by
  funext other
  cases table <;> cases other <;> rfl

variable (node : String) (mode : Mode) (overrides : OverrideTable)

def modbusNumbering : Numbering ModbusTable ModbusEntry where
  area register := .ofPoint register.pointClass
  base := ModbusTable.base
  fits table := by cases table <;> decide
  answer register address :=
    let table := ModbusTable.ofPoint register.pointClass
    if address ≤ table.last then
      .ok ⟨table, address, register.tag, modbusScaling mode register⟩
    else .error (.exhausted node .modbus table.name address)

def modbusCounted (registers : List Register) : ModbusCounters :=
  registers.foldl (fun counters register => (modbusStep node mode overrides counters register).1)
    .start

def onTable (table : ModbusTable) (registers : List Register) : List Register :=
  registers.filter (ModbusTable.ofPoint ·.pointClass = table)

def modbusResults (table : ModbusTable) (registers : List Register) :
    List (Except CompileError ModbusEntry) :=
  ((registers.zip (modbusSteps node mode overrides .start registers)).filter
    (ModbusTable.ofPoint ·.1.pointClass = table)).map Prod.snd

theorem modbus_step_numbered (counters : ModbusCounters) (register : Register) :
    (modbusNumbering node mode).step overrides counters.get register =
      ((modbusStep node mode overrides counters register).1.get,
        (modbusStep node mode overrides counters register).2) := by
  simp only [Numbering.step, modbusStep, ModbusCounters.get_set]
  rfl

theorem modbus_steps_numbered (counters : ModbusCounters) (registers : List Register) :
    modbusSteps node mode overrides counters registers =
      (modbusNumbering node mode).steps overrides counters.get registers :=
  (modbusNumbering node mode).steps_read overrides ModbusCounters.get
    (modbusStep node mode overrides) (modbus_step_numbered node mode overrides)
    (modbusSteps node mode overrides) (fun _ => rfl) (fun _ _ _ => rfl) counters registers

theorem modbus_start : ModbusCounters.start.get = (modbusNumbering node mode).base := by
  funext table
  cases table <;> rfl

theorem modbus_counted_numbered (registers : List Register) :
    (modbusCounted node mode overrides registers).get =
      (modbusNumbering node mode).counted overrides (modbusNumbering node mode).base registers := by
  rw [← modbus_start node mode]
  exact (modbusNumbering node mode).counted_read overrides ModbusCounters.get
    (modbusStep node mode overrides) (modbus_step_numbered node mode overrides) .start registers

theorem modbus_entries_steps (counters : ModbusCounters) (registers : List Register) :
    modbusEntries node mode overrides counters registers =
      (modbusSteps node mode overrides counters registers).mapM id := by
  induction registers generalizing counters with
  | nil => rfl
  | cons register rest ih =>
      rw [modbusEntries, modbusSteps, List.mapM_cons]
      rcases modbusStep node mode overrides counters register with ⟨after, fault | entry⟩
      · rfl
      · simp only [ih]
        rfl

theorem exponent_negated (hint : Int64) :
    (-hint).toInt = if hint ≠ Int64.minValue then -hint.toInt else hint.toInt := by
  by_cases least : hint = Int64.minValue
  · subst least
    decide
  · have above : hint.toInt ≠ -2 ^ 63 := fun same =>
      least (Int64.toInt_inj.mp (same.trans Int64.toInt_minValue.symm))
    have low := hint.le_toInt
    have high := hint.toInt_lt
    rw [if_pos least, Int64.toInt_neg]
    exact Int.bmod_eq_of_le (by omega) (by omega)

theorem modbus_scaling_iff (register : Register) (exponent : Int64) :
    modbusScaling mode register = some exponent ↔
      register.pointClass.isAnalog ∧ ∃ hint, register.modbus.scaling = some hint ∧
        exponent = if mode = .server then -hint else hint := by
  rw [modbusScaling]
  cases mode <;> by_cases analog : register.pointClass.isAnalog <;> simp [analog, eq_comm]

/-- A register takes the address that its distance from the nearest number given by hand to a
register of its table, or from the base of the table, says; one past the end of the table is refused,
and those after it count on. A server negates the exponent of an analog register in 64 bits, which is
the inverse of every exponent but the least; the least one stays as it is. -/
theorem modbus_addressed (registers : List Register) :
    modbusSteps node mode overrides .start registers =
        registers.mapIdx (fun i register =>
          let table := ModbusTable.ofPoint register.pointClass
          let address := overrides.candidate table.base (onTable table (registers.take (i + 1)))
          if address ≤ table.base + 65535 then
            .ok { table, address, tag := register.tag, scaling := modbusScaling mode register }
          else .error (.exhausted node .modbus table.name address)) ∧
      (∀ register exponent, modbusScaling mode register = some exponent ↔
        register.pointClass.isAnalog ∧ ∃ hint, register.modbus.scaling = some hint ∧
          exponent = (if mode = .server then -hint else hint) ∧
          exponent.toInt =
            if mode = .server ∧ hint ≠ Int64.minValue then -hint.toInt else hint.toInt) ∧
      (∀ table, modbusResults node mode overrides table registers =
        modbusSteps node mode overrides .start (onTable table registers)) ∧
      (∀ table, (modbusCounted node mode overrides registers).get table ≤ counterLimit ∧
        table.base + 65535 ≤ counterLimit) ∧
      ∀ entries, modbusEntries node mode overrides .start registers = .ok entries ↔
        modbusSteps node mode overrides .start registers = entries.map .ok := by
  have start := modbus_start node mode
  refine ⟨?_, fun register exponent => ?_, fun table => ?_, fun table => ⟨?_, ?_⟩, fun entries => ?_⟩
  · rw [modbus_steps_numbered, start]
    exact (modbusNumbering node mode).steps_closed overrides registers
  · rw [modbus_scaling_iff]
    refine and_congr_right fun _ => exists_congr fun hint => and_congr_right fun _ => ?_
    refine ⟨fun stored => ⟨stored, ?_⟩, And.left⟩
    cases mode with
    | client => simp [stored]
    | server => simpa [stored] using exponent_negated hint
  · rw [modbusResults, modbus_steps_numbered, modbus_steps_numbered]
    exact (modbusNumbering node mode).steps_alone overrides table _ _ rfl registers
  · rw [modbus_counted_numbered, Numbering.counted_closed]
    exact overrides.reached_fits _ _
  · cases table <;> decide
  · rw [modbus_entries_steps, in_turn_ok]

-- The second register gets the last address of its table by hand, so the third gets none, while
-- the table of the fourth is as fresh as ever.
example :
    let register field pointClass : Register :=
      ⟨"BUS7", field, pointClass, "bus", .modbus, {}, {}, none, "rtu1"⟩
    modbusSteps "rtu1" .server
        ⟨[⟨"BUS7", "bus", .analogRead, "current", .inputRegister, 95535⟩]⟩ .start
        [register "voltage" .analogRead, register "current" .analogRead,
          register "freq" .analogRead, register "setpt" .analogReadWrite] =
      [.ok ⟨.input, 30000, "BUS7.voltage", none⟩, .ok ⟨.input, 95535, "BUS7.current", none⟩,
        .error (.exhausted "rtu1" .modbus "input" 95536),
        .ok ⟨.holding, 40000, "BUS7.setpt", none⟩] := by
  decide

end FieldConfig.Allocation
