import Mathlib.Data.List.Infix

set_option autoImplicit false

namespace FieldConfig.Text

def cutAt? (mark : List Char) : List Char → Option (List Char × List Char)
  | [] => none
  | c :: rest =>
    if mark <+: c :: rest then some ([], (c :: rest).drop mark.length)
    else (cutAt? mark rest).map fun (before, behind) => (c :: before, behind)

def Passed (mark chars : List Char) : Prop :=
  ∀ behind, cutAt? mark (chars ++ behind) =
    (cutAt? mark behind).map fun (before, rest) => (chars ++ before, rest)

variable (mark : List Char)

theorem cut_here (behind : List Char) (written : mark ≠ []) :
    cutAt? mark (mark ++ behind) = some ([], behind) := by
  cases mark with
  | nil => exact absurd rfl written
  | cons c rest =>
      have here : c :: rest <+: c :: (rest ++ behind) := List.prefix_append (c :: rest) behind
      rw [List.cons_append, cutAt?, if_pos here, ← List.cons_append, List.drop_left]

theorem cut_parts (written : mark ≠ []) (chars before behind : List Char)
    (cut : cutAt? mark chars = some (before, behind)) :
    chars = before ++ mark ++ behind ∧ ¬ mark <:+: before := by
  induction chars generalizing before with
  | nil => cases cut
  | cons c rest ih =>
      rw [cutAt?] at cut
      by_cases here : mark <+: c :: rest
      · rw [if_pos here] at cut
        cases cut
        exact ⟨(List.prefix_iff_eq_append.mp here).symm, by simpa using written⟩
      · rw [if_neg here] at cut
        obtain ⟨⟨inner, _⟩, later, same⟩ := Option.map_eq_some_iff.mp cut
        cases same
        obtain ⟨whole, absent⟩ := ih inner later
        refine ⟨by simpa using whole, fun inside => ?_⟩
        rcases List.infix_cons_iff.mp inside with first | deeper
        · refine here (first.trans ?_)
          rw [whole, List.append_assoc, ← List.cons_append]
          exact List.prefix_append _ _
        · exact absent deeper

theorem passed_nil : Passed mark [] := by
  intro behind
  simp

theorem passed_append (first second : List Char) (before : Passed mark first)
    (behind : Passed mark second) : Passed mark (first ++ second) := by
  intro rest
  rw [List.append_assoc, before, behind, Option.map_map]
  simp [Function.comp_def]

theorem passed_cons (c : Char) (chars : List Char)
    (other : ∀ behind, ¬ mark <+: c :: (chars ++ behind)) (later : Passed mark chars) :
    Passed mark (c :: chars) := by
  intro behind
  rw [List.cons_append, cutAt?, if_neg (other behind), later, Option.map_map]
  rfl

theorem passed_plain (first : Char) (rest chars : List Char) (absent : first ∉ chars) :
    Passed (first :: rest) chars := by
  induction chars with
  | nil => exact passed_nil _
  | cons c chars ih =>
      obtain ⟨here, later⟩ := not_or.mp (mt List.mem_cons.mpr absent)
      exact passed_cons _ c chars (fun _ begins => here (List.cons_prefix_cons.mp begins).1) (ih later)

theorem cut_passed (before behind : List Char) (written : mark ≠ [])
    (passed : Passed mark before) :
    cutAt? mark (before ++ (mark ++ behind)) = some (before, behind) := by
  rw [passed, cut_here mark behind written]
  simp

end FieldConfig.Text
