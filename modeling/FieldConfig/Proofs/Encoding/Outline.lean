import FieldConfig.Proofs.Encoding.Signals

set_option autoImplicit false

-- A section without its addresses. The registers and the endpoint alone give all of it, so manual
-- numbers change nothing in a section but addresses.
namespace FieldConfig

def ModbusEntry.unaddressed (entry : ModbusEntry) : ModbusEntry := { entry with address := 0 }

def Dnp3Point.unaddressed (point : Dnp3Point) : Dnp3Point := { point with address := 0 }

def Body.unaddressed : Body → Body
  | .modbus entries => .modbus (entries.map ModbusEntry.unaddressed)
  | .dnp3 session points => .dnp3 session (points.map Dnp3Point.unaddressed)

def Section.unaddressed (s : Section) : Section := { s with body := s.body.unaddressed }

@[simp] theorem Section.unaddressed_protocol (s : Section) :
    s.unaddressed.protocol = s.protocol := by
  obtain ⟨name, mode, endpoint, body⟩ := s
  cases body <;> rfl

namespace Allocation

def modbusOutline (mode : Mode) (register : Register) : ModbusEntry :=
  ⟨.ofPoint register.pointClass, 0, register.tag, modbusScaling mode register⟩

def dnp3Outline (register : Register) : List Dnp3Point :=
  (dnp3Points register 0).map Dnp3Point.unaddressed

variable (node : String) (mode : Mode) (overrides : OverrideTable)

theorem modbus_outline (counters : ModbusCounters) (registers : List Register)
    (entries : List ModbusEntry)
    (allocated : modbusEntries node mode overrides counters registers = .ok entries) :
    entries.map ModbusEntry.unaddressed = registers.map (modbusOutline mode) := by
  induction registers generalizing counters entries with
  | nil =>
      cases allocated
      rfl
  | cons register rest ih =>
      rw [modbusEntries] at allocated
      rcases step : modbusStep node mode overrides counters register with ⟨after, fault | entry⟩
      · simp [step] at allocated
      · simp only [step] at allocated
        obtain ⟨others, later, rfl⟩ := map_ok _ _ entries allocated
        have here : entry.unaddressed = modbusOutline mode register := by
          obtain ⟨_, stepped⟩ := Prod.ext_iff.mp step
          simp only [modbusStep] at stepped
          split at stepped
          · cases stepped
            rfl
          · cases stepped
        rw [List.map_cons, List.map_cons, here, ih after others later]

theorem points_outline (register : Register) (address : Nat) :
    (dnp3Points register address).map Dnp3Point.unaddressed = dnp3Outline register := by
  simp only [dnp3Outline, dnp3Points]
  split <;> rfl

theorem dnp3_outline (counters : Dnp3Counters) (registers : List Register)
    (points : List Dnp3Point)
    (allocated : dnp3Entries node overrides counters registers = .ok points) :
    points.map Dnp3Point.unaddressed = registers.flatMap dnp3Outline := by
  induction registers generalizing counters points with
  | nil =>
      cases allocated
      rfl
  | cons register rest ih =>
      rw [dnp3Entries] at allocated
      rcases step : dnp3Step node overrides counters register with ⟨after, fault | first⟩
      · simp [step] at allocated
      · simp only [step] at allocated
        obtain ⟨others, later, rfl⟩ := map_ok _ _ points allocated
        obtain ⟨address, rfl⟩ :=
          dnp3_step_points node overrides counters register first (by rw [step])
        rw [List.map_append, List.flatMap_cons, points_outline, ih after others later]

end Allocation

namespace Encoding

def outline (encoding : Encoding) (protocol : Protocol) (registers : List Register) : Section where
  name := encoding.side.sectionName protocol
  mode := encoding.side.mode
  endpoint := encoding.endpoint.text
  body :=
    match protocol with
    | .modbus => .modbus (registers.map (Allocation.modbusOutline encoding.side.mode))
    | .dnp3 => .dnp3 (.ofMode encoding.side.mode) (registers.flatMap Allocation.dnp3Outline)

theorem encode_outline (encoding : Encoding) (protocol : Protocol) (registers : List Register)
    (s : Section) (encoded : encoding.encode protocol registers = .ok s) :
    s.unaddressed = encoding.outline protocol registers := by
  obtain ⟨content, found, rfl⟩ := map_ok _ _ s encoded
  cases protocol with
  | modbus =>
      obtain ⟨entries, allocated, rfl⟩ := map_ok _ _ content found
      have same := Allocation.modbus_outline _ _ _ _ registers entries allocated
      simp only [Section.unaddressed, Body.unaddressed, outline, same]
  | dnp3 =>
      obtain ⟨points, allocated, rfl⟩ := map_ok _ _ content found
      have same := Allocation.dnp3_outline _ _ _ registers points allocated
      simp only [Section.unaddressed, Body.unaddressed, outline, same]

theorem encoded_alike (node other : String) (side : Side) (endpoint : Endpoint)
    (overrides others : OverrideTable) (protocol : Protocol) (registers : List Register)
    (first second : Section)
    (encoded : encode ⟨node, side, endpoint, overrides⟩ protocol registers = .ok first)
    (again : encode ⟨other, side, endpoint, others⟩ protocol registers = .ok second) :
    first.unaddressed = second.unaddressed :=
  (encode_outline _ protocol registers first encoded).trans
    (encode_outline _ protocol registers second again).symm

theorem encode_name (encoding : Encoding) (protocol : Protocol) (registers : List Register)
    (s : Section) (encoded : encoding.encode protocol registers = .ok s) :
    s.name = encoding.side.sectionName s.protocol := by
  rw [(encoding.encode_facts protocol registers s encoded).1]
  exact congrArg Section.name (encoding.encode_outline protocol registers s encoded)

end Encoding
end FieldConfig
