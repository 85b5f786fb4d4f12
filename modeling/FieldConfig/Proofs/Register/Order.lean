import FieldConfig.Proofs.Register.Merge
import Mathlib.Data.List.Perm.Basic

set_option autoImplicit false

-- The order in which a set lists what it was given: all of the protocol that was met first, then all
-- of the other, each in the order of arrival. Nothing is lost or added on the way.
namespace FieldConfig

variable {α β : Type}

def startingWith (protocol : Protocol) (groups : List (Protocol × List α)) : List α :=
  (groups.filter (·.1 = protocol)).flatMap Prod.snd ++
    (groups.filter (·.1 ≠ protocol)).flatMap Prod.snd

def byProtocol (groups : List (Protocol × List α)) : List α :=
  match groups with
  | [] => []
  | first :: _ => startingWith first.1 groups

theorem starting_with_perm (protocol : Protocol) (groups : List (Protocol × List α)) :
    (startingWith protocol groups).Perm (groups.flatMap Prod.snd) := by
  have split := List.filter_append_perm (fun group => decide (group.1 = protocol)) groups
  have flat := split.flatMap fun group _ => List.Perm.refl group.2
  simpa [startingWith] using flat

theorem by_protocol_perm (groups : List (Protocol × List α)) :
    (byProtocol groups).Perm (groups.flatMap Prod.snd) := by
  cases groups with
  | nil => exact .refl _
  | cons first rest => exact starting_with_perm first.1 (first :: rest)

theorem starting_with_map (f : α → β) (protocol : Protocol) (groups : List (Protocol × List α)) :
    startingWith protocol (groups.map fun group => (group.1, group.2.map f)) =
      (startingWith protocol groups).map f := by
  simp only [startingWith, List.map_append, List.map_flatMap, List.filter_map, List.flatMap_map,
    Function.comp_def]

theorem by_protocol_map (f : α → β) (groups : List (Protocol × List α)) :
    byProtocol (groups.map fun group => (group.1, group.2.map f)) = (byProtocol groups).map f := by
  cases groups with
  | nil => rfl
  | cons first rest => exact starting_with_map f first.1 (first :: rest)

namespace RegisterSet

def labelled (set : RegisterSet) : List (Protocol × Register) :=
  set.groups.flatMap fun group => group.2.map (group.1, ·)

theorem labelled_flatten (set : RegisterSet) : set.labelled.map Prod.snd = set.flatten := by
  simp [labelled, flatten, List.map_flatMap, Function.comp_def]

theorem labelled_held (groups : List (Protocol × List Register)) (protocol : Protocol) :
    (labelled ⟨groups⟩).filter (·.1 = protocol) = (held groups protocol).map (protocol, ·) := by
  induction groups with
  | nil => rfl
  | cons group rest ih =>
      by_cases same : group.1 = protocol
      · simpa [labelled, held, same, List.filter_map, Function.comp_def] using ih
      · simpa [labelled, held, same, List.filter_map, Function.comp_def] using ih

theorem labelled_regroup (groups : List (Protocol × List Register)) (protocol : Protocol) :
    (regroup groups).labelled.filter (·.1 = protocol) =
      (held groups protocol).map (protocol, ·) :=
  (labelled_held _ protocol).trans (congrArg _ (items_grouped groups protocol))

theorem flatten_perm (groups : List (Protocol × List Register)) :
    (regroup groups).flatten.Perm (groups.flatMap Prod.snd) := by
  have kept (protocol : Protocol) : (regroup groups).labelled.filter (·.1 = protocol) =
      (labelled ⟨groups⟩).filter (·.1 = protocol) :=
    (labelled_regroup groups protocol).trans (labelled_held groups protocol).symm
  have perm := (perm_of_kept _ _ kept).map Prod.snd
  rwa [labelled_flatten, labelled_flatten] at perm

theorem eraseDups_same (protocol : Protocol) (protocols : List Protocol)
    (same : ∀ p ∈ protocols, p = protocol) :
    protocols.eraseDups = if protocols = [] then [] else [protocol] := by
  cases protocols with
  | nil => rfl
  | cons first rest =>
      have here : first = protocol := same first List.mem_cons_self
      have none : rest.filter (fun p => !p == first) = [] :=
        List.filter_eq_nil_iff.mpr fun p member => by
          simp [here, same p (List.mem_cons_of_mem _ member)]
      rw [List.eraseDups_cons, none, here]
      rfl

theorem flatten_regroup (groups : List (Protocol × List Register)) :
    (regroup groups).flatten = byProtocol groups := by
  cases groups with
  | nil => rfl
  | cons first rest =>
      -- Besides the protocol of the first group there is one other.
      obtain ⟨other, apart⟩ : ∃ other, ∀ p : Protocol, p = other ↔ p ≠ first.1 := by
        cases first.1 with
        | dnp3 => exact ⟨.modbus, fun p => by cases p <;> simp⟩
        | modbus => exact ⟨.dnp3, fun p => by cases p <;> simp⟩
      have later := eraseDups_same other ((rest.map Prod.fst).filter fun p => !p == first.1)
        fun p member => (apart p).mpr (by simpa using (List.mem_filter.mp member).2)
      have others : held (first :: rest) other =
          ((first :: rest).filter (·.1 ≠ first.1)).flatMap Prod.snd := by
        simp only [held, apart]
      rw [byProtocol, startingWith, ← others, flatten, regroup, List.flatMap_map, List.map_cons,
        List.eraseDups_cons, later, List.flatMap_cons]
      refine congrArg (held (first :: rest) first.1 ++ ·) ?_
      by_cases absent : (rest.map Prod.fst).filter (fun p => !p == first.1) = []
      · have missing : other ∉ (first :: rest).map Prod.fst := by
          intro member
          have different : other ≠ first.1 := (apart other).mp rfl
          have among := (List.mem_cons.mp member).resolve_left different
          exact List.filter_eq_nil_iff.mp absent other among (by simpa using different)
        have none : held (first :: rest) other = [] := items_absent _ _ missing
        rw [if_pos absent, none]
        rfl
      · rw [if_neg absent, List.flatMap_singleton]

end RegisterSet
end FieldConfig
