import Mathlib.Data.List.Induction

set_option autoImplicit false

namespace FieldConfig

variable {α : Type} [DecidableEq α]

theorem eraseDups_snoc (items : List α) (item : α) :
    (items ++ [item]).eraseDups =
      if item ∈ items then items.eraseDups else items.eraseDups ++ [item] := by
  rw [List.eraseDups_append]
  by_cases known : item ∈ items <;> simp [List.removeAll, known, List.eraseDups_cons]

theorem eraseDups_known (items rest : List α) (item : α) (known : item ∈ items) :
    (items ++ item :: rest).eraseDups = (items ++ rest).eraseDups := by
  rw [List.eraseDups_append, List.eraseDups_append]
  simp [List.removeAll, known]

theorem eraseDups_distinct (items : List α) : items.eraseDups.Nodup := by
  induction items using List.reverseRecOn with
  | nil => simp
  | append_singleton items item ih =>
      rw [eraseDups_snoc]
      by_cases known : item ∈ items
      · simpa [known] using ih
      · simpa [known, List.nodup_append] using ⟨ih, fun other member same => known (same ▸ member)⟩

theorem eraseDups_nodup (items : List α) (distinct : items.Nodup) : items.eraseDups = items := by
  induction items using List.reverseRecOn with
  | nil => rfl
  | append_singleton items item ih =>
      obtain ⟨earlier, _, apart⟩ := List.nodup_append.mp distinct
      have fresh : item ∉ items := fun known => apart _ known _ (by simp) rfl
      rw [eraseDups_snoc, if_neg fresh, ih earlier]

theorem eraseDups_behind (items rest : List α) :
    (items ++ rest.eraseDups).eraseDups = (items ++ rest).eraseDups := by
  induction rest using List.reverseRecOn with
  | nil => rfl
  | append_singleton rest item ih =>
      rw [eraseDups_snoc, ← List.append_assoc, eraseDups_snoc (items ++ rest)]
      by_cases known : item ∈ rest
      · rw [if_pos known, if_pos (List.mem_append_right items known), ih]
      · rw [if_neg known, ← List.append_assoc, eraseDups_snoc, ih]
        simp only [List.mem_append, List.mem_eraseDups]

end FieldConfig
