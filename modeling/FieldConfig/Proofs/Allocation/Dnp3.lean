import FieldConfig.Proofs.Allocation.Counting
import FieldConfig.Proofs.Encoding.Outline
import Mathlib.Algebra.GroupWithZero.Nat
import Mathlib.Data.List.Chain

set_option autoImplicit false

namespace FieldConfig.Allocation

theorem Dnp3Counters.get_set (counters : Dnp3Counters) (pointType : PointType) (value : Nat) :
    (counters.set pointType value).get = Function.update counters.get pointType value := by
  funext other
  cases pointType <;> cases other <;> rfl

variable (node : String) (overrides : OverrideTable)

def dnp3Numbering : Numbering PointType (List Dnp3Point) where
  area register := .ofPoint register.pointClass
  base _ := 0
  fits _ := by decide
  answer register address :=
    if address < outputOffset then .ok (dnp3Points register address)
    else .error (.exhausted node .dnp3 (PointType.ofPoint register.pointClass).name address)

def dnp3Counted (registers : List Register) : Dnp3Counters :=
  registers.foldl (fun counters register => (dnp3Step node overrides counters register).1) .start

def ofType (pointType : PointType) (registers : List Register) : List Register :=
  registers.filter (PointType.ofPoint ·.pointClass = pointType)

def dnp3Written (registers : List Register) : List Dnp3Point :=
  ((dnp3Steps node overrides .start registers).filterMap Except.toOption).flatten

def Behind (previous point : Dnp3Point) : Prop :=
  point.direction = .output →
    point.address = previous.address + outputOffset ∧
      previous = { point with direction := .input, address := previous.address, sbo := none }

theorem dnp3_step_numbered (counters : Dnp3Counters) (register : Register) :
    (dnp3Numbering node).step overrides counters.get register =
      ((dnp3Step node overrides counters register).1.get,
        (dnp3Step node overrides counters register).2) := by
  simp only [Numbering.step, dnp3Step, Dnp3Counters.get_set]
  rfl

theorem dnp3_steps_numbered (counters : Dnp3Counters) (registers : List Register) :
    dnp3Steps node overrides counters registers =
      (dnp3Numbering node).steps overrides counters.get registers :=
  (dnp3Numbering node).steps_read overrides Dnp3Counters.get (dnp3Step node overrides)
    (dnp3_step_numbered node overrides) (dnp3Steps node overrides) (fun _ => rfl) (fun _ _ _ => rfl)
    counters registers

theorem dnp3_start : Dnp3Counters.start.get = (dnp3Numbering node).base := by
  funext pointType
  cases pointType <;> rfl

theorem dnp3_counted_numbered (registers : List Register) :
    (dnp3Counted node overrides registers).get =
      (dnp3Numbering node).counted overrides (dnp3Numbering node).base registers := by
  rw [← dnp3_start node]
  exact (dnp3Numbering node).counted_read overrides Dnp3Counters.get (dnp3Step node overrides)
    (dnp3_step_numbered node overrides) .start registers

theorem dnp3_steps_closed (registers : List Register) :
    dnp3Steps node overrides .start registers = registers.mapIdx fun i register =>
      (dnp3Numbering node).answer register
        ((dnp3Numbering node).due overrides (registers.take (i + 1)) register) := by
  rw [dnp3_steps_numbered, dnp3_start node, Numbering.steps_closed]

theorem dnp3_entries_steps (counters : Dnp3Counters) (registers : List Register) :
    dnp3Entries node overrides counters registers =
      ((dnp3Steps node overrides counters registers).mapM id).map List.flatten := by
  induction registers generalizing counters with
  | nil => rfl
  | cons register rest ih =>
      rw [dnp3Entries, dnp3Steps, List.mapM_cons]
      rcases dnp3Step node overrides counters register with ⟨after, fault | points⟩
      · rfl
      · simp only [ih]
        cases (dnp3Steps node overrides after rest).mapM id <;> rfl

theorem written_group (registers : List Register) (points : List Dnp3Point)
    (member : points ∈ (dnp3Steps node overrides .start registers).filterMap Except.toOption) :
    ∃ register address, address < outputOffset ∧ points = dnp3Points register address := by
  obtain ⟨result, among, kept⟩ := List.mem_filterMap.mp member
  rw [dnp3_steps_closed] at among
  obtain ⟨i, inside, rfl⟩ := List.mem_mapIdx.mp among
  simp only [dnp3Numbering] at kept
  split at kept
  · exact ⟨_, _, ‹_›, (Option.some.inj kept).symm⟩
  · cases kept

theorem points_bounded (register : Register) (address : Nat) (low : address < outputOffset) :
    ∀ point ∈ dnp3Points register address,
      match point.direction with
      | .input => point.address < 1000
      | .output => 1000 ≤ point.address ∧ point.address < 2000 := by
  rw [outputOffset] at low
  rw [dnp3Points, List.forall_mem_cons]
  refine ⟨low, ?_⟩
  split
  · rw [List.forall_mem_singleton]
    simp only [dnp3Point, outputOffset]
    omega
  · simp

theorem points_behind (register : Register) (address : Nat) :
    (dnp3Points register address).IsChain Behind := by
  rw [dnp3Points]
  split
  · exact .cons_cons (fun _ => ⟨rfl, rfl⟩) (.singleton _)
  · exact .singleton _

theorem groups_behind (groups : List (List Dnp3Point))
    (each : ∀ points ∈ groups, ∃ register address, points = dnp3Points register address) :
    StartsWithInput groups.flatten ∧ groups.flatten.IsChain Behind := by
  induction groups with
  | nil => exact ⟨by simp [StartsWithInput], .nil⟩
  | cons points rest ih =>
      obtain ⟨⟨register, address, rfl⟩, others⟩ := List.forall_mem_cons.mp each
      obtain ⟨starts, behind⟩ := ih others
      refine ⟨(register_signals register address _ starts).2, ?_⟩
      rw [List.flatten_cons, List.isChain_append]
      refine ⟨points_behind register address, behind, fun _ _ next first output => ?_⟩
      rw [starts next first] at output
      cases output

theorem entries_written (registers : List Register) (points : List Dnp3Point) :
    dnp3Entries node overrides .start registers = .ok points ↔
      (∀ result ∈ dnp3Steps node overrides .start registers, ∃ own, result = .ok own) ∧
        points = dnp3Written node overrides registers := by
  rw [dnp3_entries_steps, dnp3Written]
  generalize dnp3Steps node overrides .start registers = results
  constructor
  · intro flat
    obtain ⟨groups, taken, rfl⟩ := map_ok _ _ points flat
    rw [(in_turn_ok results groups).mp taken]
    refine ⟨by simp, ?_⟩
    rw [List.filterMap_map]
    exact congrArg List.flatten List.filterMap_some.symm
  · rintro ⟨each, rfl⟩
    rw [(in_turn_ok results _).mpr (ok_kept results each)]
    rfl

theorem entries_length (counters : Dnp3Counters) (registers : List Register)
    (points : List Dnp3Point)
    (allocated : dnp3Entries node overrides counters registers = .ok points) :
    points.length = (registers.map (pointsPerRegister ·.pointClass)).sum := by
  have outline := congrArg List.length (dnp3_outline node overrides counters registers points allocated)
  rw [List.length_map, List.length_flatMap] at outline
  rw [outline]
  congr 2
  funext register
  rw [dnp3Outline, List.length_map, dnp3Points, pointsPerRegister]
  split <;> rfl

/-- A register takes the index that its distance from the nearest number given by hand to a register
of its point type, or from zero, says. Below 1000 it has an input there, and an output 1000 above it
if it can be set. -/
theorem dnp3_indexed (registers : List Register) :
    dnp3Steps node overrides .start registers =
        registers.mapIdx (fun i register =>
          let pointType := PointType.ofPoint register.pointClass
          let index := overrides.candidate 0 (ofType pointType (registers.take (i + 1)))
          if index < 1000 then
            .ok ({ direction := .input, pointType, address := index, tag := register.tag,
                   sgvar := register.dnp3.sgvar, egvar := register.dnp3.egvar,
                   eventClass := register.dnp3.eventClass } ::
              if register.pointClass.isWritable then
                [{ direction := .output, pointType, address := index + 1000, tag := register.tag,
                   sgvar := register.dnp3.sgvar, egvar := register.dnp3.egvar,
                   eventClass := register.dnp3.eventClass, sbo := register.dnp3.sbo }]
              else [])
          else .error (.exhausted node .dnp3 pointType.name index)) ∧
      (∀ register pointType,
        (dnp3Counted node overrides (registers ++ [register])).get pointType =
          if pointType = .ofPoint register.pointClass then
            min (overrides.candidate 0
              (ofType (.ofPoint register.pointClass) (registers ++ [register])) + 1) counterLimit
          else (dnp3Counted node overrides registers).get pointType) ∧
      (∀ point ∈ dnp3Written node overrides registers,
        match point.direction with
        | .input => point.address < 1000
        | .output => 1000 ≤ point.address ∧ point.address < 2000) ∧
      StartsWithInput (dnp3Written node overrides registers) ∧
      (dnp3Written node overrides registers).IsChain Behind ∧
      ∀ points, dnp3Entries node overrides .start registers = .ok points ↔
        (∀ result ∈ dnp3Steps node overrides .start registers, ∃ own, result = .ok own) ∧
          points = dnp3Written node overrides registers ∧
          points.length = (registers.map (pointsPerRegister ·.pointClass)).sum := by
  have written (points : List Dnp3Point)
      (member : points ∈ (dnp3Steps node overrides .start registers).filterMap Except.toOption) :
      ∃ register address, points = dnp3Points register address := by
    obtain ⟨register, address, _, same⟩ := written_group node overrides registers points member
    exact ⟨register, address, same⟩
  obtain ⟨starts, behind⟩ := groups_behind _ written
  refine ⟨?_, fun register pointType => ?_, fun point member => ?_, starts, behind, fun points => ?_⟩
  · rw [dnp3_steps_closed]
    rfl
  · rw [dnp3_counted_numbered, dnp3_counted_numbered]
    exact (dnp3Numbering node).counted_next overrides registers register pointType
  · obtain ⟨group, kept, among⟩ := List.mem_flatten.mp member
    obtain ⟨register, address, low, rfl⟩ := written_group node overrides registers group kept
    exact points_bounded register address low point among
  · rw [entries_written]
    constructor
    · rintro ⟨each, same⟩
      have allocated := (entries_written node overrides registers points).mpr ⟨each, same⟩
      exact ⟨each, same, entries_length node overrides .start registers points allocated⟩
    · rintro ⟨each, same, _⟩
      exact ⟨each, same⟩

example :
    let register field pointClass : Register :=
      ⟨"CAP3", field, pointClass, "capacitor", .dnp3, {}, {}, none, "rtu1"⟩
    dnp3Steps "rtu1" ⟨[⟨"CAP3", "capacitor", .analogReadWrite, "setpt", .analogOutput, 999⟩]⟩ .start
        [register "setpt" .analogReadWrite, register "voltage" .analogRead] =
      [.ok [⟨.input, .analog, 999, "CAP3.setpt", none, none, none, none⟩,
          ⟨.output, .analog, 1999, "CAP3.setpt", none, none, none, none⟩],
        .error (.exhausted "rtu1" .dnp3 "analog" 1000)] := by
  decide

end FieldConfig.Allocation
