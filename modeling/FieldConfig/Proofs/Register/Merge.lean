import FieldConfig.Proofs.Grouping
import FieldConfig.Register

set_option autoImplicit false

namespace FieldConfig.RegisterSet

def held (groups : List (Protocol × List Register)) (protocol : Protocol) : List Register :=
  (groups.filter (·.1 = protocol)).flatMap Prod.snd

def regroup (groups : List (Protocol × List Register)) : RegisterSet :=
  ⟨(groups.map Prod.fst).eraseDups.map fun protocol => (protocol, held groups protocol)⟩

theorem protocols_regroup (groups : List (Protocol × List Register)) :
    (regroup groups).protocols = (groups.map Prod.fst).eraseDups :=
  grouped_keys groups

theorem extend_adds (protocol : Protocol) (registers : List Register)
    (groups : List (Protocol × List Register)) :
    extendGroups protocol registers groups = addTo protocol registers groups := by
  induction groups with
  | nil => rfl
  | cons group rest ih => rw [extendGroups, addTo, ih]

theorem extend_regroup (groups : List (Protocol × List Register)) (protocol : Protocol)
    (registers : List Register) :
    (regroup groups).extend protocol registers = regroup (groups ++ [(protocol, registers)]) := by
  rw [extend, extend_adds]
  exact congrArg RegisterSet.mk (add_grouped groups protocol registers)

theorem extend_behind (earlier groups : List (Protocol × List Register)) :
    groups.foldl (fun set group => set.extend group.1 group.2) (regroup earlier) =
      regroup (earlier ++ groups) := by
  induction groups generalizing earlier with
  | nil => rw [List.append_nil, List.foldl_nil]
  | cons group rest ih =>
      rw [List.foldl_cons, extend_regroup, ih, List.append_assoc, List.singleton_append]

theorem extend_each (groups : List (Protocol × List Register)) :
    groups.foldl (fun set group => set.extend group.1 group.2) {} = regroup groups :=
  extend_behind [] groups

theorem append_regroup (first second : List (Protocol × List Register)) :
    (regroup first).append (regroup second) = regroup (first ++ second) := by
  have groups : regroup (first ++ grouped second) = regroup (first ++ second) :=
    congrArg RegisterSet.mk (grouped_behind first second)
  exact (extend_behind first (grouped second)).trans groups

theorem append_each (sets : List RegisterSet) :
    sets.foldl append {} = regroup (sets.flatMap RegisterSet.groups) := by
  rw [← extend_each, List.foldl_flatMap]
  rfl

end FieldConfig.RegisterSet
