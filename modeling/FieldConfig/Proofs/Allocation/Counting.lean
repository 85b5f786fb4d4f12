import FieldConfig.Allocation.Counter
import FieldConfig.Error
import FieldConfig.Proofs.Outcome
import Mathlib.Data.List.DropRight
import Mathlib.Logic.Function.Basic

set_option autoImplicit false

-- Addresses told without counting through the registers. What a register gets follows from those of
-- its own area up to it: from the nearest number that was given by hand and the distance from it.
namespace FieldConfig

namespace OverrideTable

def manual (overrides : OverrideTable) (register : Register) : Option UInt32 :=
  (overrides.entries.filter (governs · register register.kind)).getLast?.map (·.number)

theorem lookup_manual (overrides : OverrideTable) (register : Register) :
    overrides.lookup register register.kind = overrides.manual register := by
  rw [lookup, manual, List.getLast?_filter]

def since (overrides : OverrideTable) (registers : List Register) : Nat :=
  (registers.rtakeWhile fun register => overrides.manual register = none).length

-- What the last of the registers of one area takes: the nearest number and the distance from it,
-- or the base and the registers before it.
def candidate (overrides : OverrideTable) (base : Nat) (registers : List Register) : Nat :=
  match (registers.filterMap overrides.manual).getLast? with
  | some number => min (number.toNat + overrides.since registers) Allocation.counterLimit
  | none => min (base + (registers.length - 1)) Allocation.counterLimit

def reached (overrides : OverrideTable) (base : Nat) (registers : List Register) : Nat :=
  match (registers.filterMap overrides.manual).getLast? with
  | some number => min (number.toNat + overrides.since registers + 1) Allocation.counterLimit
  | none => min (base + registers.length) Allocation.counterLimit

variable (overrides : OverrideTable) (base : Nat)

theorem reached_start (fits : base ≤ Allocation.counterLimit) : overrides.reached base [] = base :=
  Nat.min_eq_left fits

theorem reached_fits (registers : List Register) :
    overrides.reached base registers ≤ Allocation.counterLimit := by
  rw [reached]
  split <;> exact Nat.min_le_right _ _

theorem candidate_numbered (earlier : List Register) (register : Register) (number : UInt32)
    (given : overrides.manual register = some number) :
    overrides.candidate base (earlier ++ [register]) = number.toNat := by
  have bound := number.toNat_lt
  simp [candidate, since, given, Allocation.counterLimit]
  omega

theorem candidate_follows (earlier : List Register) (register : Register)
    (free : overrides.manual register = none) :
    overrides.candidate base (earlier ++ [register]) = overrides.reached base earlier := by
  simp [candidate, reached, since, free, Nat.add_assoc]

theorem reached_next (earlier : List Register) (register : Register) :
    overrides.reached base (earlier ++ [register]) =
      min (overrides.candidate base (earlier ++ [register]) + 1) Allocation.counterLimit := by
  rw [reached, candidate]
  cases ((earlier ++ [register]).filterMap overrides.manual).getLast? with
  | none => simp; omega
  | some number => simp; omega

theorem candidate_fits (registers : List Register) :
    overrides.candidate base registers ≤ Allocation.counterLimit := by
  rw [candidate]
  split <;> exact Nat.min_le_right _ _

-- The counter takes the candidate, and stays on it where it cannot go on.
theorem advance_candidate (earlier : List Register) (register : Register) :
    Allocation.advance (overrides.reached base earlier)
        (overrides.lookup register register.kind) =
      (overrides.reached base (earlier ++ [register]),
        if overrides.candidate base (earlier ++ [register]) < Allocation.counterLimit then
          some (overrides.candidate base (earlier ++ [register]))
        else none) := by
  have address : ((overrides.lookup register register.kind).map UInt32.toNat).getD
      (overrides.reached base earlier) = overrides.candidate base (earlier ++ [register]) := by
    rw [lookup_manual]
    cases given : overrides.manual register with
    | none => exact (overrides.candidate_follows base earlier register given).symm
    | some number => exact (overrides.candidate_numbered base earlier register number given).symm
  have fits := overrides.candidate_fits base (earlier ++ [register])
  simp only [Allocation.advance, address, overrides.reached_next base earlier register]
  split
  · rw [Nat.min_eq_left (by omega)]
  · rw [Nat.min_eq_right (by omega), Nat.le_antisymm fits (by omega)]

end OverrideTable

namespace Allocation

structure Numbering (Area Answer : Type) where
  area : Register → Area
  base : Area → Nat
  fits : ∀ area, base area ≤ counterLimit
  answer : Register → Nat → Except CompileError Answer

namespace Numbering

variable {Area Answer : Type} [DecidableEq Area] (numbering : Numbering Area Answer)
  (overrides : OverrideTable)

def step (counters : Area → Nat) (register : Register) :
    (Area → Nat) × Except CompileError Answer :=
  let area := numbering.area register
  let (counter, taken) := advance (counters area) (overrides.lookup register register.kind)
  (Function.update counters area counter, numbering.answer register (taken.getD counterLimit))

def steps : (Area → Nat) → List Register → List (Except CompileError Answer)
  | _, [] => []
  | counters, register :: rest =>
    let (counters, result) := numbering.step overrides counters register
    result :: steps counters rest

theorem steps_cons (counters : Area → Nat) (register : Register) (rest : List Register) :
    numbering.steps overrides counters (register :: rest) =
      (numbering.step overrides counters register).2 ::
        numbering.steps overrides (numbering.step overrides counters register).1 rest := rfl

theorem steps_fail (kind : CompileError → Prop)
    (answers : ∀ register number, FailsOnly kind (numbering.answer register number))
    (counters : Area → Nat) (registers : List Register) :
    ∀ result ∈ numbering.steps overrides counters registers, FailsOnly kind result := by
  induction registers generalizing counters with
  | nil => simp [steps]
  | cons register rest ih =>
      rw [steps_cons]
      exact List.forall_mem_cons.mpr ⟨answers register _, ih _⟩

def counted (counters : Area → Nat) (registers : List Register) : Area → Nat :=
  registers.foldl (fun counters register => (numbering.step overrides counters register).1) counters

def sharing (area : Area) (registers : List Register) : List Register :=
  registers.filter (numbering.area · = area)

def due (registers : List Register) (register : Register) : Nat :=
  overrides.candidate (numbering.base (numbering.area register))
    (numbering.sharing (numbering.area register) registers)

def Standing (done : List Register) (counters : Area → Nat) : Prop :=
  ∀ area, counters area = overrides.reached (numbering.base area) (numbering.sharing area done)

theorem sharing_own (done : List Register) (register : Register) :
    numbering.sharing (numbering.area register) (done ++ [register]) =
      numbering.sharing (numbering.area register) done ++ [register] := by
  simp [sharing]

theorem sharing_other (done : List Register) (register : Register) (area : Area)
    (other : numbering.area register ≠ area) :
    numbering.sharing area (done ++ [register]) = numbering.sharing area done := by
  simp [sharing, other]

theorem start_standing : numbering.Standing overrides [] numbering.base := fun area =>
  (overrides.reached_start _ (numbering.fits area)).symm

theorem step_due (done : List Register) (counters : Area → Nat)
    (standing : numbering.Standing overrides done counters) (register : Register) :
    (numbering.step overrides counters register).2 =
        numbering.answer register (numbering.due overrides (done ++ [register]) register) ∧
      numbering.Standing overrides (done ++ [register])
        (numbering.step overrides counters register).1 := by
  have taken : advance (counters (numbering.area register))
        (overrides.lookup register register.kind) =
      (overrides.reached (numbering.base (numbering.area register))
          (numbering.sharing (numbering.area register) (done ++ [register])),
        if numbering.due overrides (done ++ [register]) register < counterLimit then
          some (numbering.due overrides (done ++ [register]) register)
        else none) := by
    rw [standing, due, sharing_own]
    exact overrides.advance_candidate _ _ register
  have fits : numbering.due overrides (done ++ [register]) register ≤ counterLimit :=
    overrides.candidate_fits _ _
  constructor
  · simp only [step, taken]
    split
    · rfl
    · rw [Option.getD_none, Nat.le_antisymm fits (by omega)]
  · intro area
    simp only [step, taken, Function.update_apply]
    by_cases own : area = numbering.area register
    · rw [if_pos own, own]
    · rw [if_neg own, numbering.sharing_other done register area (Ne.symm own), standing]

theorem steps_due (done : List Register) (counters : Area → Nat)
    (standing : numbering.Standing overrides done counters) (registers : List Register) :
    numbering.steps overrides counters registers = registers.mapIdx fun i register =>
      numbering.answer register
        (numbering.due overrides (done ++ registers.take (i + 1)) register) := by
  induction registers generalizing done counters with
  | nil => rfl
  | cons register rest ih =>
      obtain ⟨first, after⟩ := numbering.step_due overrides done counters standing register
      rw [steps_cons, List.mapIdx_cons, first, ih _ _ after]
      simp [List.append_assoc]

theorem counted_standing (done : List Register) (counters : Area → Nat)
    (standing : numbering.Standing overrides done counters) (registers : List Register) :
    numbering.Standing overrides (done ++ registers)
      (numbering.counted overrides counters registers) := by
  induction registers generalizing done counters with
  | nil => simpa [counted] using standing
  | cons register rest ih =>
      have after := (numbering.step_due overrides done counters standing register).2
      rw [List.append_cons]
      exact ih _ _ after

theorem steps_closed (registers : List Register) :
    numbering.steps overrides numbering.base registers = registers.mapIdx fun i register =>
      numbering.answer register (numbering.due overrides (registers.take (i + 1)) register) :=
  numbering.steps_due overrides [] numbering.base (numbering.start_standing overrides) registers

theorem counted_closed (registers : List Register) (area : Area) :
    numbering.counted overrides numbering.base registers area =
      overrides.reached (numbering.base area) (numbering.sharing area registers) :=
  numbering.counted_standing overrides [] _ (numbering.start_standing overrides) registers area

theorem counted_next (registers : List Register) (register : Register) (area : Area) :
    numbering.counted overrides numbering.base (registers ++ [register]) area =
      if area = numbering.area register then
        min (numbering.due overrides (registers ++ [register]) register + 1) counterLimit
      else numbering.counted overrides numbering.base registers area := by
  rw [counted_closed, counted_closed]
  by_cases own : area = numbering.area register
  · rw [if_pos own, own, sharing_own, overrides.reached_next, due, sharing_own]
  · rw [if_neg own, sharing_other _ _ _ _ (Ne.symm own)]

theorem steps_alone (area : Area) (counters others : Area → Nat)
    (same : counters area = others area) (registers : List Register) :
    ((registers.zip (numbering.steps overrides counters registers)).filter
        (numbering.area ·.1 = area)).map Prod.snd =
      numbering.steps overrides others (numbering.sharing area registers) := by
  induction registers generalizing counters others with
  | nil => rfl
  | cons register rest ih =>
      rw [steps_cons, List.zip_cons_cons, sharing, List.filter_cons, List.filter_cons]
      by_cases own : numbering.area register = area
      · rw [if_pos (by simpa using own), if_pos (by simpa using own), steps_cons, List.map_cons]
        have first : (numbering.step overrides counters register).2 =
            (numbering.step overrides others register).2 := by
          simp only [step, own, same]
        have after : (numbering.step overrides counters register).1 area =
            (numbering.step overrides others register).1 area := by
          simp only [step, own, same, Function.update_self]
        rw [first, ih _ _ after, sharing]
      · rw [if_neg (by simpa using own), if_neg (by simpa using own)]
        refine ih _ _ ?_
        simp only [step, Function.update_apply, if_neg (Ne.symm own), same]

section

variable {Counters : Type} (read : Counters → Area → Nat)
  (move : Counters → Register → Counters × Except CompileError Answer)
  (moves : ∀ counters register, numbering.step overrides (read counters) register =
    (read (move counters register).1, (move counters register).2))

include moves

theorem steps_read (run : Counters → List Register → List (Except CompileError Answer))
    (ends : ∀ counters, run counters [] = [])
    (goes : ∀ counters register rest, run counters (register :: rest) =
      (move counters register).2 :: run (move counters register).1 rest)
    (counters : Counters) (registers : List Register) :
    run counters registers = numbering.steps overrides (read counters) registers := by
  induction registers generalizing counters with
  | nil => exact ends counters
  | cons register rest ih => rw [goes, steps_cons, moves, ih]

theorem counted_read (counters : Counters) (registers : List Register) :
    read (registers.foldl (fun counters register => (move counters register).1) counters) =
      numbering.counted overrides (read counters) registers :=
  (List.foldl_hom read fun counters register => congrArg Prod.fst (moves counters register)).symm

end

end Numbering
end Allocation
end FieldConfig
