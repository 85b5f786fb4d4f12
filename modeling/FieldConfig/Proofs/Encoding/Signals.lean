import FieldConfig.Proofs.Encoding.Mirror

set_option autoImplicit false

-- What a section says of its points under either protocol: a tag, analog or binary, and whether the
-- point can be set. Reading a section back gives the registers that it was encoded from.
namespace FieldConfig

structure Signal where
  tag : String
  pointType : PointType
  writable : Bool
deriving DecidableEq, Repr

def Register.signal (register : Register) : Signal :=
  ⟨register.tag, .ofPoint register.pointClass, register.pointClass.isWritable⟩

namespace ModbusTable

def pointType : ModbusTable → PointType
  | .coil | .discrete => .binary
  | .input | .holding => .analog

def isWritable : ModbusTable → Bool
  | .coil | .holding => true
  | .discrete | .input => false

theorem point_type_table (pointClass : PointClass) :
    (ofPoint pointClass).pointType = .ofPoint pointClass := by
  cases pointClass <;> rfl

theorem writable_table (pointClass : PointClass) :
    (ofPoint pointClass).isWritable = pointClass.isWritable := by
  cases pointClass <;> rfl

end ModbusTable

def ModbusEntry.signal (entry : ModbusEntry) : Signal :=
  ⟨entry.tag, entry.table.pointType, entry.table.isWritable⟩

namespace Dnp3Point

def isOutputOf (output input : Dnp3Point) : Bool :=
  output.direction = .output && output.tag = input.tag &&
    output.address = input.address + Allocation.outputOffset

-- An input is one signal together with the output that directly follows it, if that is its own.
def signals : List Dnp3Point → List Signal
  | [] => []
  | point :: rest =>
    match point.direction with
    | .input => ⟨point.tag, point.pointType, rest.head?.any (·.isOutputOf point)⟩ :: signals rest
    | .output => signals rest

end Dnp3Point

def Body.signals : Body → List Signal
  | .modbus entries => entries.map ModbusEntry.signal
  | .dnp3 _ points => Dnp3Point.signals points

def Section.signals (s : Section) : List Signal := s.body.signals

def Section.content (s : Section) : Protocol × List Signal := (s.protocol, s.signals)

namespace Allocation

variable (node : String) (mode : Mode) (overrides : OverrideTable)

theorem modbus_step_signal (counters : ModbusCounters) (register : Register) (entry : ModbusEntry)
    (stepped : (modbusStep node mode overrides counters register).2 = .ok entry) :
    entry.signal = register.signal := by
  simp only [modbusStep] at stepped
  split at stepped
  · cases stepped
    simp only [ModbusEntry.signal, Register.signal, ModbusTable.point_type_table,
      ModbusTable.writable_table]
  · cases stepped

theorem modbus_signals (counters : ModbusCounters) (registers : List Register)
    (entries : List ModbusEntry)
    (allocated : modbusEntries node mode overrides counters registers = .ok entries) :
    entries.map ModbusEntry.signal = registers.map Register.signal := by
  induction registers generalizing counters entries with
  | nil =>
      cases allocated
      rfl
  | cons register rest ih =>
      rw [modbusEntries] at allocated
      rcases step : modbusStep node mode overrides counters register with ⟨after, fault | entry⟩
      · simp [step] at allocated
      · simp only [step] at allocated
        obtain ⟨others, later, rfl⟩ := map_ok _ _ entries allocated
        have here := modbus_step_signal node mode overrides counters register entry (by rw [step])
        rw [List.map_cons, List.map_cons, here, ih after others later]

theorem dnp3_step_points (counters : Dnp3Counters) (register : Register) (points : List Dnp3Point)
    (stepped : (dnp3Step node overrides counters register).2 = .ok points) :
    ∃ address, points = dnp3Points register address := by
  simp only [dnp3Step] at stepped
  split at stepped
  · cases stepped
    exact ⟨_, rfl⟩
  · cases stepped

def StartsWithInput (points : List Dnp3Point) : Prop :=
  ∀ point ∈ points.head?, point.direction = .input

theorem register_signals (register : Register) (address : Nat) (rest : List Dnp3Point)
    (starts : StartsWithInput rest) :
    Dnp3Point.signals (dnp3Points register address ++ rest) =
        register.signal :: Dnp3Point.signals rest ∧
      StartsWithInput (dnp3Points register address ++ rest) := by
  cases writable : register.pointClass.isWritable with
  | true =>
      constructor
      · simp [dnp3Points, dnp3Point, writable, Dnp3Point.signals, Dnp3Point.isOutputOf,
          Register.signal]
      · simp [StartsWithInput, dnp3Points, dnp3Point]
  | false =>
      have alone : rest.head?.any (·.isOutputOf (dnp3Point register .input address)) = false := by
        cases rest with
        | nil => rfl
        | cons next others =>
            have input : next.direction = .input := starts next rfl
            simp [Dnp3Point.isOutputOf, input]
      constructor
      · have direction : (dnp3Point register .input address).direction = .input := rfl
        simp only [dnp3Points, writable, Dnp3Point.signals, direction, alone, List.cons_append,
          Bool.false_eq_true, if_false, List.nil_append]
        simp [dnp3Point, Register.signal, writable]
      · simp [StartsWithInput, dnp3Points, dnp3Point]

theorem dnp3_signals (counters : Dnp3Counters) (registers : List Register)
    (points : List Dnp3Point)
    (allocated : dnp3Entries node overrides counters registers = .ok points) :
    Dnp3Point.signals points = registers.map Register.signal ∧ StartsWithInput points := by
  induction registers generalizing counters points with
  | nil =>
      cases allocated
      exact ⟨rfl, by simp [StartsWithInput]⟩
  | cons register rest ih =>
      rw [dnp3Entries] at allocated
      rcases step : dnp3Step node overrides counters register with ⟨after, fault | first⟩
      · simp [step] at allocated
      · simp only [step] at allocated
        obtain ⟨others, later, rfl⟩ := map_ok _ _ points allocated
        obtain ⟨address, rfl⟩ :=
          dnp3_step_points node overrides counters register first (by rw [step])
        obtain ⟨signals, starts⟩ := ih after others later
        obtain ⟨here, startsHere⟩ := register_signals register address others starts
        exact ⟨by rw [here, signals, List.map_cons], startsHere⟩

end Allocation

namespace Encoding

theorem encode_content (encoding : Encoding) (protocol : Protocol) (registers : List Register)
    (s : Section) (encoded : encoding.encode protocol registers = .ok s) :
    s.content = (protocol, registers.map Register.signal) := by
  have same := (encoding.encode_facts protocol registers s encoded).1
  obtain ⟨content, found, rfl⟩ := map_ok _ _ s encoded
  refine Prod.ext same ?_
  cases protocol with
  | modbus =>
      obtain ⟨entries, allocated, rfl⟩ := map_ok _ _ content found
      exact Allocation.modbus_signals _ _ _ _ registers entries allocated
  | dnp3 =>
      obtain ⟨points, allocated, rfl⟩ := map_ok _ _ content found
      exact (Allocation.dnp3_signals _ _ _ registers points allocated).1

end Encoding

theorem Section.mirror_content (target : String) (served : Section) :
    (served.mirror target).content = served.content := by
  obtain ⟨name, mode, endpoint, body⟩ := served
  cases body with
  | modbus entries =>
      simp [Section.content, Section.protocol, Section.signals, Section.mirror, Body.mirror,
        Body.signals, Function.comp_def, ModbusEntry.signal, ModbusEntry.mirror]
  | dnp3 session points => rfl

end FieldConfig
