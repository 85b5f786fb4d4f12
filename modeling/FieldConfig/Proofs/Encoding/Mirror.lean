import FieldConfig.Encoding
import FieldConfig.Proofs.Outcome

set_option autoImplicit false

-- The same registers as one device serves them and as another polls them. Both sides count the same
-- addresses from the same manual numbers, and each fails where the other does.
namespace FieldConfig

def ModbusEntry.mirror (entry : ModbusEntry) : ModbusEntry :=
  { entry with scaling := entry.scaling.map fun exponent => -exponent }

def Body.mirror : Body → Body
  | .modbus entries => .modbus (entries.map ModbusEntry.mirror)
  | .dnp3 _ points => .dnp3 (.ofMode .client) points

def Section.mirror (target : String) (served : Section) : Section where
  name := (Side.polling target).sectionName served.protocol
  mode := .client
  endpoint := served.endpoint
  body := served.body.mirror

namespace Allocation

variable (polling serving : String) (overrides : OverrideTable)

theorem scaling_mirrors (register : Register) :
    modbusScaling .client register =
      (modbusScaling .server register).map fun exponent => -exponent := by
  rw [modbusScaling, modbusScaling]
  by_cases analog : register.pointClass.isAnalog
  · rw [if_pos analog, if_pos analog]
    cases register.modbus.scaling <;> simp
  · rw [if_neg analog, if_neg analog]
    rfl

theorem modbus_step_mirrors (counters : ModbusCounters) (register : Register) :
    (modbusStep polling .client overrides counters register).1 =
        (modbusStep serving .server overrides counters register).1 ∧
      (modbusStep polling .client overrides counters register).2.toOption =
        (modbusStep serving .server overrides counters register).2.toOption.map
          ModbusEntry.mirror := by
  refine ⟨rfl, ?_⟩
  simp only [modbusStep]
  split
  · simp [Except.toOption, ModbusEntry.mirror, scaling_mirrors]
  · rfl

theorem modbus_next (node : String) (mode : Mode) (counters : ModbusCounters)
    (register : Register) (rest : List Register) :
    (modbusEntries node mode overrides counters (register :: rest)).toOption =
      (modbusStep node mode overrides counters register).2.toOption.bind fun entry =>
        (modbusEntries node mode overrides (modbusStep node mode overrides counters register).1
          rest).toOption.map (entry :: ·) := by
  rw [modbusEntries]
  rcases modbusStep node mode overrides counters register with ⟨after, fault | entry⟩
  · rfl
  · exact map_toOption _ _

theorem modbus_mirrors (counters : ModbusCounters) (registers : List Register) :
    (modbusEntries polling .client overrides counters registers).toOption =
      (modbusEntries serving .server overrides counters registers).toOption.map
        (List.map ModbusEntry.mirror) := by
  induction registers generalizing counters with
  | nil => rfl
  | cons register rest ih =>
      obtain ⟨same, mirrored⟩ := modbus_step_mirrors polling serving overrides counters register
      rw [modbus_next, modbus_next, same, mirrored, ih]
      cases (modbusStep serving .server overrides counters register).2.toOption with
      | none => rfl
      | some entry => simp [Function.comp_def]

-- A point does not say who reads it, so only the failure names the node.
theorem dnp3_step_mirrors (counters : Dnp3Counters) (register : Register) :
    (dnp3Step polling overrides counters register).1 =
        (dnp3Step serving overrides counters register).1 ∧
      (dnp3Step polling overrides counters register).2.toOption =
        (dnp3Step serving overrides counters register).2.toOption := by
  refine ⟨rfl, ?_⟩
  simp only [dnp3Step]
  split <;> rfl

theorem dnp3_next (node : String) (counters : Dnp3Counters) (register : Register)
    (rest : List Register) :
    (dnp3Entries node overrides counters (register :: rest)).toOption =
      (dnp3Step node overrides counters register).2.toOption.bind fun points =>
        (dnp3Entries node overrides (dnp3Step node overrides counters register).1
          rest).toOption.map (points ++ ·) := by
  rw [dnp3Entries]
  rcases dnp3Step node overrides counters register with ⟨after, fault | points⟩
  · rfl
  · exact map_toOption _ _

theorem dnp3_mirrors (counters : Dnp3Counters) (registers : List Register) :
    (dnp3Entries polling overrides counters registers).toOption =
      (dnp3Entries serving overrides counters registers).toOption := by
  induction registers generalizing counters with
  | nil => rfl
  | cons register rest ih =>
      obtain ⟨same, mirrored⟩ := dnp3_step_mirrors polling serving overrides counters register
      rw [dnp3_next, dnp3_next, same, mirrored, ih]

end Allocation

namespace Encoding

theorem body_mirrors (polling serving target : String) (endpoint : Endpoint)
    (overrides : OverrideTable) (protocol : Protocol) (registers : List Register) :
    (body ⟨polling, .polling target, endpoint, overrides⟩ registers protocol).toOption =
      (body ⟨serving, .serving, endpoint, overrides⟩ registers protocol).toOption.map
        Body.mirror := by
  cases protocol with
  | modbus =>
      simp only [body, Side.mode, map_toOption]
      rw [Allocation.modbus_mirrors polling serving]
      simp [Option.map_map, Function.comp_def, Body.mirror]
  | dnp3 =>
      simp only [body, Side.mode, map_toOption]
      rw [Allocation.dnp3_mirrors polling serving]
      simp [Option.map_map, Function.comp_def, Body.mirror]

theorem encode_facts (encoding : Encoding) (protocol : Protocol) (registers : List Register)
    (s : Section) (encoded : encoding.encode protocol registers = .ok s) :
    s.protocol = protocol ∧ s.mode = encoding.side.mode := by
  obtain ⟨content, found, rfl⟩ := map_ok _ _ s encoded
  refine ⟨?_, rfl⟩
  cases protocol with
  | modbus =>
      obtain ⟨entries, _, rfl⟩ := map_ok _ _ content found
      rfl
  | dnp3 =>
      obtain ⟨points, _, rfl⟩ := map_ok _ _ content found
      rfl

theorem encode_mirrors (polling serving target : String) (endpoint : Endpoint)
    (overrides : OverrideTable) (protocol : Protocol) (registers : List Register) :
    (encode ⟨polling, .polling target, endpoint, overrides⟩ protocol registers).toOption =
      (encode ⟨serving, .serving, endpoint, overrides⟩ protocol registers).toOption.map
        (Section.mirror target) := by
  rw [encode, encode, map_toOption, map_toOption, body_mirrors polling serving target]
  cases found : body ⟨serving, .serving, endpoint, overrides⟩ registers protocol with
  | error fault => rfl
  | ok content =>
      have served : encode ⟨serving, .serving, endpoint, overrides⟩ protocol registers =
          .ok ⟨Side.serving.sectionName protocol, Side.serving.mode, endpoint.text, content⟩ := by
        rw [encode, found]
        rfl
      have same := (encode_facts _ protocol registers _ served).1
      simp only [Except.toOption, Option.map_some, Section.mirror, same]
      rfl

end Encoding
end FieldConfig
