import FieldConfig.Proofs.Register.Order
import Mathlib.Data.List.Basic

set_option autoImplicit false

-- Sets in whatever way they came about. What was put into a set tells all that it holds, and a set
-- that is appended to another is as good as the calls that made it, made on the other.
namespace FieldConfig.RegisterSet

inductive History where
  | empty
  | extend (earlier : History) (protocol : Protocol) (registers : List Register)
  | append (earlier other : History)

namespace History

def made : History → RegisterSet
  | empty => {}
  | extend earlier protocol registers => earlier.made.extend protocol registers
  | append earlier other => earlier.made.append other.made

def given : History → List (Protocol × List Register)
  | empty => []
  | extend earlier protocol registers => earlier.given ++ [(protocol, registers)]
  | append earlier other => earlier.given ++ other.given

theorem made_regroup (history : History) : history.made = regroup history.given := by
  induction history with
  | empty => rfl
  | extend earlier protocol registers ih => rw [made, ih, extend_regroup, given]
  | append earlier other first second => rw [made, first, second, append_regroup, given]

theorem made_alike (history other : History) (same : history.given = other.given) :
    history.made = other.made := by
  rw [made_regroup, made_regroup, same]

end History

theorem size_flatten (set : RegisterSet) : set.size = set.flatten.length :=
  List.length_flatMap.symm

theorem empty_iff (set : RegisterSet) : set.isEmpty ↔ set.size = 0 := by
  rw [size_flatten, List.length_eq_zero_iff, flatten, List.flatMap_eq_nil_iff, isEmpty,
    List.all_eq_true]
  simp only [List.isEmpty_iff]

section

variable (groups : List (Protocol × List Register)) (protocol : Protocol)

theorem get_regroup :
    (regroup groups).get? protocol =
      if protocol ∈ groups.map Prod.fst then some (held groups protocol) else none := by
  by_cases known : protocol ∈ groups.map Prod.fst
  · rw [if_pos known]
    exact List.lookup_graph (held groups) (List.mem_eraseDups.mpr known)
  · rw [if_neg known, get?, List.lookup_eq_none_iff]
    intro group member
    have listed : group.1 ∈ (regroup groups).protocols := List.mem_map_of_mem member
    rw [protocols_regroup, List.mem_eraseDups] at listed
    exact bne_iff_ne.mpr fun same => known (same ▸ listed)

theorem present_regroup :
    ((regroup groups).get? protocol).isSome ↔ protocol ∈ groups.map Prod.fst := by
  rw [get_regroup]
  split
  · next known => exact iff_of_true rfl known
  · next absent => exact iff_of_false Bool.false_ne_true absent

theorem held_regroup : ((regroup groups).get? protocol).getD [] = held groups protocol := by
  rw [get_regroup]
  split
  · rfl
  · next absent => exact (items_absent groups protocol absent).symm

end

theorem append_kept (first second : List (Protocol × List Register)) (protocol : Protocol) :
    (regroup (first ++ second)).labelled.filter (·.1 = protocol) =
      ((regroup first).labelled ++ (regroup second).labelled).filter (·.1 = protocol) := by
  rw [List.filter_append, labelled_regroup, labelled_regroup, labelled_regroup, ← List.map_append]
  exact congrArg _ (items_append first second protocol)

theorem append_flatten (first second : List (Protocol × List Register)) :
    (regroup (first ++ second)).flatten.Perm
      ((regroup first).flatten ++ (regroup second).flatten) := by
  have parts := (flatten_perm first).append (flatten_perm second)
  rw [← List.flatMap_append] at parts
  exact (flatten_perm (first ++ second)).trans parts.symm

/-- A set has at most one group for a protocol, the groups stand in the order in which their protocols
came first, and the set is empty when its size is zero. Appending is associative, and the empty set
changes nothing on either side. A protocol has a group when it has one in either set: the registers of
the first, then those of the second. Sizes add up, and all registers of both are listed, those of one
group in the order that they had. -/
theorem append_laws (a b c : History) :
    (a.made.protocols.Nodup ∧ a.made.protocols = (a.given.map Prod.fst).eraseDups ∧
      (a.made.isEmpty ↔ a.made.size = 0)) ∧
    ((a.made.append b.made).append c.made = a.made.append (b.made.append c.made) ∧
      append {} a.made = a.made ∧ a.made.append {} = a.made) ∧
    (∀ protocol,
      (((a.made.append b.made).get? protocol).isSome ↔
        (a.made.get? protocol).isSome ∨ (b.made.get? protocol).isSome) ∧
      ((a.made.append b.made).get? protocol).getD [] =
        (a.made.get? protocol).getD [] ++ (b.made.get? protocol).getD []) ∧
    (a.made.append b.made).size = a.made.size + b.made.size ∧
    (a.made.append b.made).flatten.Perm (a.made.flatten ++ b.made.flatten) ∧
    ∀ protocol, (a.made.append b.made).labelled.filter (·.1 = protocol) =
      (a.made.labelled ++ b.made.labelled).filter (·.1 = protocol) := by
  have protocols : a.made.protocols = (a.given.map Prod.fst).eraseDups := by
    rw [History.made_regroup, protocols_regroup]
  have together : a.made.append b.made = regroup (a.given ++ b.given) :=
    History.made_regroup (a.append b)
  have listed : (a.made.append b.made).flatten.Perm (a.made.flatten ++ b.made.flatten) := by
    rw [together, a.made_regroup, b.made_regroup]
    exact append_flatten a.given b.given
  refine ⟨⟨protocols ▸ eraseDups_distinct _, protocols, empty_iff a.made⟩, ⟨?_, ?_, rfl⟩,
    fun protocol => ⟨?_, ?_⟩, ?_, listed, fun protocol => ?_⟩
  · exact History.made_alike ((a.append b).append c) (a.append (b.append c)) (List.append_assoc _ _ _)
  · exact History.made_alike (.append .empty a) a (List.nil_append _)
  · rw [together, a.made_regroup, b.made_regroup, present_regroup, present_regroup, present_regroup,
      List.map_append, List.mem_append]
  · rw [together, a.made_regroup, b.made_regroup, held_regroup, held_regroup, held_regroup]
    exact items_append a.given b.given protocol
  · rw [size_flatten, listed.length_eq, List.length_append, ← size_flatten, ← size_flatten]
  · rw [together, a.made_regroup, b.made_regroup]
    exact append_kept a.given b.given protocol

example (voltage current : Register) :
    let outlets := (History.empty.extend .modbus []).extend .dnp3 [voltage]
    let both := outlets.append (History.empty.extend .modbus [current])
    both.made.groups = [(.modbus, [current]), (.dnp3, [voltage])] := by
  rfl

end FieldConfig.RegisterSet
