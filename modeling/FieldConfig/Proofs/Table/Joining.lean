import FieldConfig.Table
import Mathlib.Data.List.Nodup

set_option autoImplicit false

-- Tables joined key by key. The keys of the first keep their places and the new ones follow; what
-- stands under a key of both is combined. Laws of the combination are laws of the joined tables, so
-- they pass from level to level of nested tables.
namespace FieldConfig.Table

variable {α : Type}

structure Keyed (valid : α → Prop) (table : Table α) : Prop where
  distinct : table.keys.Nodup
  values : ∀ entry ∈ table.entries, valid entry.2

instance (valid : α → Prop) [DecidablePred valid] (table : Table α) : Decidable (Keyed valid table) :=
  decidable_of_iff (table.keys.Nodup ∧ ∀ entry ∈ table.entries, valid entry.2)
    ⟨fun ⟨distinct, values⟩ => ⟨distinct, values⟩, fun keyed => ⟨keyed.distinct, keyed.values⟩⟩

theorem keyed_empty (valid : α → Prop) : Keyed valid ∅ := ⟨List.nodup_nil, by rintro _ ⟨⟩⟩

theorem keys_cons (entry : String × α) (rest : List (String × α)) :
    (⟨entry :: rest⟩ : Table α).keys = entry.1 :: (⟨rest⟩ : Table α).keys := rfl

theorem get_cons (entry : String × α) (rest : List (String × α)) (key : String) :
    (⟨entry :: rest⟩ : Table α).get? key =
      if key = entry.1 then some entry.2 else (⟨rest⟩ : Table α).get? key := by
  obtain ⟨first, value⟩ := entry
  by_cases same : key = first
  · simp [get?, same]
  · have apart : (key == first) = false := beq_false_of_ne same
    simp [get?, List.lookup_cons, same, apart]

theorem get_none_iff (table : Table α) (key : String) : table.get? key = none ↔ key ∉ table.keys := by
  rw [get?, List.lookup_eq_none_iff, keys, List.mem_map]
  simp only [bne_iff_ne, ne_eq, not_exists, not_and]
  exact forall₂_congr fun entry _ => not_congr eq_comm

theorem get_member (table : Table α) (key : String) (value : α)
    (found : table.get? key = some value) : (key, value) ∈ table.entries := by
  obtain ⟨before, after, parts, _⟩ := List.lookup_eq_some_iff.mp found
  rw [parts]
  exact List.mem_append_right before List.mem_cons_self

theorem member_get (table : Table α) (distinct : table.keys.Nodup) (entry : String × α)
    (member : entry ∈ table.entries) : table.get? entry.1 = some entry.2 := by
  obtain ⟨before, after, parts⟩ := List.append_of_mem member
  refine List.lookup_eq_some_iff.mpr ⟨before, after, parts, fun other among => ?_⟩
  rw [keys, parts, List.map_append, List.map_cons] at distinct
  have apart := (List.nodup_append.mp distinct).2.2 other.1 (List.mem_map_of_mem among) entry.1
    List.mem_cons_self
  exact bne_iff_ne.mpr (Ne.symm apart)

theorem get_perm (table other : Table α) (distinct : table.keys.Nodup)
    (same : other.entries.Perm table.entries) (key : String) : other.get? key = table.get? key := by
  have again : other.keys.Nodup := (same.map Prod.fst).nodup_iff.mpr distinct
  cases found : table.get? key with
  | none =>
      rw [get_none_iff] at found ⊢
      exact fun member => found ((same.map Prod.fst).mem_iff.mp member)
  | some value =>
      exact member_get other again (key, value) (same.mem_iff.mpr (table.get_member key value found))

theorem agree (table other : Table α) (distinct : table.keys.Nodup) (keys : table.keys = other.keys)
    (values : ∀ key, table.get? key = other.get? key) : table = other := by
  have listed (table : Table α) (distinct : table.keys.Nodup) :
      table.entries = table.keys.filterMap fun key => (table.get? key).map (key, ·) := by
    rw [Table.keys, List.filterMap_map]
    refine (List.filterMap_some.symm).trans (List.filterMap_congr fun entry member => ?_)
    rw [Function.comp_apply, member_get table distinct entry member, Option.map_some]
  obtain ⟨entries⟩ := table
  obtain ⟨others⟩ := other
  have first := listed _ distinct
  have second := listed ⟨others⟩ (keys ▸ distinct)
  rw [keys] at first
  simp only [values] at first
  exact congrArg Table.mk (first.trans second.symm)

theorem keys_insert (table : Table α) (key : String) (value : α) :
    (table.insert key value).keys =
      if key ∈ table.keys then table.keys else table.keys ++ [key] := by
  obtain ⟨entries⟩ := table
  simp only [insert, keys]
  induction entries with
  | nil => rfl
  | cons entry rest ih =>
      by_cases here : entry.1 = key
      · simp [put, here]
      · by_cases known : key ∈ rest.map Prod.fst <;> simp [put, here, Ne.symm here, ih, known]

theorem insert_keyed (valid : α → Prop) (table : Table α) (keyed : Keyed valid table) (key : String)
    (value : α) (own : valid value) : Keyed valid (table.insert key value) := by
  have distinct : (table.insert key value).keys.Nodup := by
    rw [keys_insert]
    split
    · exact keyed.distinct
    · next fresh => exact List.concat_eq_append ▸ keyed.distinct.concat fresh
  refine ⟨distinct, fun entry member => ?_⟩
  have found := member_get _ distinct entry member
  rw [get_insert] at found
  split at found
  · exact Option.some.inj found ▸ own
  · exact keyed.values _ (table.get_member entry.1 entry.2 found)

def blend (combine : α → α → α) : Option α → α → α
  | some old, new => combine old new
  | none, new => new

def join (combine : α → α → α) (table other : Table α) : Table α :=
  other.entries.foldl
    (fun joined entry => joined.insert entry.1 (blend combine (joined.get? entry.1) entry.2)) table

section

variable (combine : α → α → α)

theorem join_cons (table : Table α) (entry : String × α) (rest : List (String × α)) :
    join combine table ⟨entry :: rest⟩ =
      join combine (table.insert entry.1 (blend combine (table.get? entry.1) entry.2)) ⟨rest⟩ := rfl

theorem join_get (table other : Table α) (distinct : other.keys.Nodup) (key : String) :
    (join combine table other).get? key =
      ((other.get? key).map (blend combine (table.get? key))).or (table.get? key) := by
  obtain ⟨entries⟩ := other
  induction entries generalizing table with
  | nil => rfl
  | cons entry rest ih =>
      obtain ⟨fresh, distinctRest⟩ := List.nodup_cons.mp distinct
      rw [join_cons, ih _ distinctRest, get_insert, get_cons]
      by_cases same : key = entry.1
      · rw [if_pos same, if_pos same, (get_none_iff ⟨rest⟩ key).mpr (same ▸ fresh), same]
        rfl
      · rw [if_neg same, if_neg same]

theorem join_keys (table other : Table α) (distinct : other.keys.Nodup) :
    (join combine table other).keys = table.keys ++ other.keys.filter (· ∉ table.keys) := by
  obtain ⟨entries⟩ := other
  induction entries generalizing table with
  | nil => simp [join, keys]
  | cons entry rest ih =>
      obtain ⟨fresh, distinctRest⟩ := List.nodup_cons.mp distinct
      rw [join_cons, ih _ distinctRest, keys_insert, keys_cons]
      by_cases known : entry.1 ∈ table.keys
      · rw [if_pos known, List.filter_cons_of_neg (by simpa using known)]
      · rw [if_neg known, List.append_assoc, List.filter_cons_of_pos (by simpa using known)]
        refine congrArg (table.keys ++ entry.1 :: ·) (List.filter_congr fun key member => ?_)
        have other : key ≠ entry.1 := fun same => fresh (same ▸ member)
        simp [other]

end

structure Merges (valid : α → Prop) (combine : α → α → α) : Prop where
  kept : ∀ a b, valid a → valid b → valid (combine a b)
  assoc : ∀ a b c, valid a → valid b → valid c →
    combine (combine a b) c = combine a (combine b c)
  again : ∀ a, valid a → combine a a = a

theorem Keyed.valid {good : α → Prop} {table : Table α} (keyed : Keyed good table) (key : String)
    (value : α) (found : table.get? key = some value) : good value :=
  keyed.values _ (table.get_member key value found)

section

variable {valid : α → Prop} {combine : α → α → α}

theorem join_keyed (kept : ∀ a b, valid a → valid b → valid (combine a b)) (table other : Table α)
    (keyed : Keyed valid table) (values : ∀ entry ∈ other.entries, valid entry.2) :
    Keyed valid (join combine table other) := by
  obtain ⟨entries⟩ := other
  induction entries generalizing table with
  | nil => exact keyed
  | cons entry rest ih =>
      obtain ⟨own, others⟩ := List.forall_mem_cons.mp values
      rw [join_cons]
      refine ih _ (insert_keyed valid table keyed entry.1 _ ?_) others
      cases known : table.get? entry.1 with
      | none => exact own
      | some old => exact kept old entry.2 (keyed.valid entry.1 old known) own

theorem join_distinct (table other : Table α) (distinct : table.keys.Nodup) :
    (join combine table other).keys.Nodup := by
  have keyed : Keyed (fun _ => True) table := ⟨distinct, fun _ _ => trivial⟩
  exact (join_keyed (fun _ _ _ _ => trivial) table other keyed fun _ _ => trivial).distinct

theorem join_empty (table : Table α) (keyed : Keyed valid table) : join combine ∅ table = table := by
  refine agree _ _ (join_distinct ∅ table List.nodup_nil) ?_ fun key => ?_
  · rw [join_keys combine ∅ table keyed.distinct]
    exact List.filter_eq_self.mpr fun key _ => decide_eq_true List.not_mem_nil
  · rw [join_get combine ∅ table keyed.distinct, get_empty, Option.or_none]
    exact Option.map_id'

theorem join_whole (table other : Table α) (distinct : other.keys.Nodup) (unit : α)
    (left : ∀ value, combine value unit = value) (key : String)
    (right : ∀ value, other.get? key = some value → combine unit value = value) :
    ((join combine table other).get? key).getD unit =
      combine ((table.get? key).getD unit) ((other.get? key).getD unit) := by
  rw [join_get combine table other distinct]
  cases new : other.get? key with
  | none => exact (left _).symm
  | some value =>
      cases table.get? key with
      | none => exact (right value new).symm
      | some old => rfl

variable (laws : Merges valid combine)

include laws

theorem join_assoc (a b c : Table α) (first : Keyed valid a) (second : Keyed valid b)
    (third : Keyed valid c) :
    join combine (join combine a b) c = join combine a (join combine b c) := by
  have inner : (join combine b c).keys.Nodup := join_distinct b c second.distinct
  refine agree _ _ (join_distinct _ c (join_distinct a b first.distinct)) ?_ fun key => ?_
  · rw [join_keys _ _ c third.distinct, join_keys _ a b second.distinct, join_keys _ a _ inner,
      join_keys _ b c third.distinct, List.filter_append, List.filter_filter, List.append_assoc]
    congr 2
    refine List.filter_congr fun key _ => ?_
    by_cases known : key ∈ a.keys <;> simp [known]
  · rw [join_get _ _ c third.distinct, join_get _ a b second.distinct, join_get _ a _ inner,
      join_get _ b c third.distinct]
    cases old : a.get? key with
    | none => cases b.get? key <;> cases c.get? key <;> rfl
    | some x =>
        cases mid : b.get? key with
        | none => cases c.get? key <;> rfl
        | some y =>
            cases new : c.get? key with
            | none => rfl
            | some z =>
                exact congrArg some (laws.assoc x y z (first.valid key x old)
                  (second.valid key y mid) (third.valid key z new))

theorem join_again (table : Table α) (keyed : Keyed valid table) :
    join combine table table = table := by
  refine agree _ _ (join_distinct table table keyed.distinct) ?_ fun key => ?_
  · rw [join_keys _ table table keyed.distinct, List.filter_eq_nil_iff.mpr (by simp),
      List.append_nil]
  · rw [join_get _ table table keyed.distinct]
    cases found : table.get? key with
    | none => rfl
    | some value => exact congrArg some (laws.again value (keyed.valid key value found))

theorem join_merges : Merges (Keyed valid) (join combine) :=
  ⟨fun table other first second => join_keyed laws.kept table other first second.values,
    join_assoc laws, join_again laws⟩

end

theorem merge_join (table other : Table α) :
    table.merge other = join (fun _ new => new) table other := by
  refine congrArg (other.entries.foldl · table) (funext fun joined => funext fun entry => ?_)
  cases joined.get? entry.1 <;> rfl

theorem latest_merges (valid : α → Prop) : Merges valid fun _ new => new :=
  ⟨fun _ _ _ new => new, fun _ _ _ _ _ _ => rfl, fun _ _ => rfl⟩

theorem merge_merges (valid : α → Prop) :
    Merges (Keyed valid) (merge : Table α → Table α → Table α) := by
  have same : (merge : Table α → Table α → Table α) = join fun _ new => new :=
    funext fun table => funext fun other => table.merge_join other
  exact same ▸ join_merges (latest_merges valid)

theorem list_keyed (valid : α → Prop) (entries : List (String × α))
    (values : ∀ entry ∈ entries, valid entry.2) : Keyed valid (ofList entries) := by
  rw [ofList, merge_join]
  exact join_keyed (latest_merges valid).kept ∅ ⟨entries⟩ (keyed_empty valid) values

end FieldConfig.Table
