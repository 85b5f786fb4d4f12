import FieldConfig.Proofs.Repetition
import Mathlib.Data.List.Nodup
import Mathlib.Data.List.Perm.Basic

set_option autoImplicit false

namespace FieldConfig

variable {κ α : Type} [DecidableEq κ]

def addTo (key : κ) (items : List α) : List (κ × List α) → List (κ × List α)
  | [] => [(key, items)]
  | (k, known) :: rest =>
    if k = key then (k, known ++ items) :: rest else (k, known) :: addTo key items rest

def itemsOf (added : List (κ × List α)) (key : κ) : List α :=
  (added.filter (·.1 = key)).flatMap Prod.snd

def grouped (added : List (κ × List α)) : List (κ × List α) :=
  (added.map Prod.fst).eraseDups.map fun key => (key, itemsOf added key)

theorem items_snoc (added : List (κ × List α)) (last key : κ) (items : List α) :
    itemsOf (added ++ [(last, items)]) key =
      if key = last then itemsOf added key ++ items else itemsOf added key := by
  by_cases same : key = last
  · simp [itemsOf, same]
  · simp [itemsOf, same, Ne.symm same]

theorem items_absent (added : List (κ × List α)) (key : κ) (absent : key ∉ added.map Prod.fst) :
    itemsOf added key = [] := by
  have others : ∀ group ∈ added, group.1 ≠ key :=
    fun group member same => absent (same ▸ List.mem_map_of_mem member)
  have none : added.filter (·.1 = key) = [] :=
    List.filter_eq_nil_iff.mpr fun group member => by simpa using others group member
  rw [itemsOf, none, List.flatMap_nil]

theorem items_append (first second : List (κ × List α)) (key : κ) :
    itemsOf (first ++ second) key = itemsOf first key ++ itemsOf second key := by
  rw [itemsOf, List.filter_append, List.flatMap_append]
  rfl

theorem grouped_keys (added : List (κ × List α)) :
    (grouped added).map Prod.fst = (added.map Prod.fst).eraseDups := by
  simp [grouped, Function.comp_def]

theorem items_grouped (added : List (κ × List α)) (key : κ) :
    itemsOf (grouped added) key = itemsOf added key := by
  have own : (added.map Prod.fst).eraseDups.filter (· = key) =
      if key ∈ added.map Prod.fst then [key] else [] := by
    rw [List.filter_eq, (eraseDups_distinct _).count]
    simp only [List.mem_eraseDups]
    split <;> rfl
  rw [itemsOf, grouped, List.filter_map, List.flatMap_map]
  simp only [Function.comp_def, own]
  by_cases known : key ∈ added.map Prod.fst
  · rw [if_pos known, List.flatMap_singleton]
  · rw [if_neg known, items_absent added key known, List.flatMap_nil]

theorem grouped_behind (first second : List (κ × List α)) :
    grouped (first ++ grouped second) = grouped (first ++ second) := by
  have keys : ((first ++ grouped second).map Prod.fst).eraseDups =
      ((first ++ second).map Prod.fst).eraseDups := by
    rw [List.map_append, List.map_append, grouped_keys, eraseDups_behind]
  have items (key : κ) : itemsOf (first ++ grouped second) key = itemsOf (first ++ second) key := by
    rw [items_append, items_append, items_grouped]
  simp only [grouped.eq_1 (first ++ _), keys, items]

theorem perm_of_kept [DecidableEq α] (ordered items : List (κ × α))
    (kept : ∀ key, ordered.filter (·.1 = key) = items.filter (·.1 = key)) :
    ordered.Perm items := by
  refine List.perm_iff_count.mpr fun item => ?_
  have own (among : List (κ × α)) : (among.filter (·.1 = item.1)).count item = among.count item :=
    List.count_filter (decide_eq_true rfl)
  rw [← own, kept, own]

theorem add_known (key : κ) (items : List α) (keys : List κ) (held : κ → List α)
    (distinct : keys.Nodup) (known : key ∈ keys) :
    addTo key items (keys.map fun k => (k, held k)) =
      keys.map fun k => (k, if k = key then held k ++ items else held k) := by
  induction keys with
  | nil => simp at known
  | cons first rest ih =>
      obtain ⟨apart, distinctRest⟩ := List.nodup_cons.mp distinct
      by_cases same : first = key
      · subst same
        have others : ∀ k ∈ rest, k ≠ first := fun k member eq => apart (eq ▸ member)
        simpa [addTo] using fun k member eq => absurd eq (others k member)
      · have later : key ∈ rest := (List.mem_cons.mp known).resolve_left (Ne.symm same)
        simp [addTo, same, ih distinctRest later]

theorem add_new (key : κ) (items : List α) (groups : List (κ × List α))
    (fresh : key ∉ groups.map Prod.fst) : addTo key items groups = groups ++ [(key, items)] := by
  induction groups with
  | nil => rfl
  | cons first rest ih =>
      simp only [List.map_cons, List.mem_cons, not_or] at fresh
      simp [addTo, Ne.symm fresh.1, ih fresh.2]

theorem add_grouped (added : List (κ × List α)) (key : κ) (items : List α) :
    addTo key items (grouped added) = grouped (added ++ [(key, items)]) := by
  by_cases known : key ∈ added.map Prod.fst
  · have listed : key ∈ (added.map Prod.fst).eraseDups := List.mem_eraseDups.mpr known
    simp only [grouped, List.map_append, List.map_cons, List.map_nil, items_snoc, eraseDups_snoc,
      if_pos known]
    rw [add_known key items _ (itemsOf added) (eraseDups_distinct _) listed]
  · have fresh : key ∉ (grouped added).map Prod.fst := by
      rwa [grouped_keys, List.mem_eraseDups]
    have others : ∀ k ∈ (added.map Prod.fst).eraseDups, k ≠ key :=
      fun k member same => known (same ▸ List.mem_eraseDups.mp member)
    rw [add_new key items _ fresh]
    simp only [grouped, List.map_append, List.map_cons, List.map_nil, items_snoc, eraseDups_snoc,
      if_neg known, items_absent added key known]
    congr 1
    exact List.map_congr_left fun k member => by simp [others k member]

end FieldConfig
