import FieldConfig.Catalog.Power
import FieldConfig.Catalog.Reader
import FieldConfig.Proofs.Outcome
import FieldConfig.Proofs.Table.Joining
import Mathlib.Data.List.Induction

set_option autoImplicit false

-- Catalogs and what experiments add to them. A merge joins tables on three levels, each by the merge
-- of the level below, so its laws come from the lowest one, where a new field stands for the old.
namespace FieldConfig

namespace Decode.Reader

variable {α : Type}

theorem mismatch_refused (expected : String) (source : Json5.Source) (value : α) :
    mismatch expected source ≠ .ok value := by
  intro read
  obtain ⟨kind, _, refused⟩ := bind_ok _ _ value read
  cases refused

theorem entries_valid (valid : α → Prop) (read : Reader α)
    (sound : ∀ source value, read source = .ok value → valid value)
    (members : List (List Json5.Piece × Json5.Source)) (found : List (String × α))
    (listed : entries read members = .ok found) : ∀ entry ∈ found, valid entry.2 := by
  induction members generalizing found with
  | nil =>
      cases listed
      simp
  | cons first rest ih =>
      obtain ⟨key, _, listed⟩ := bind_ok _ _ found listed
      obtain ⟨value, own, listed⟩ := bind_ok _ _ found listed
      obtain ⟨others, later, same⟩ := bind_ok _ _ found listed
      cases same
      exact List.forall_mem_cons.mpr ⟨sound first.2 value own, ih others later⟩

theorem table_keyed (valid : α → Prop) (expected : String) (read : Reader α)
    (sound : ∀ source value, read source = .ok value → valid value) (source : Json5.Source)
    (found : Table α) (listed : table expected read source = .ok found) :
    Table.Keyed valid found := by
  cases source with
  | object members =>
      obtain ⟨entries, known, same⟩ := bind_ok _ _ found listed
      cases same
      exact Table.list_keyed valid entries (entries_valid valid read sound members entries known)
  | _ => exact absurd listed (mismatch_refused expected _ found)

end Decode.Reader

namespace Catalog

def Keyed (additions : Table (Table FieldTable)) : Prop :=
  Table.Keyed (Table.Keyed (Table.Keyed fun _ => True)) additions

instance (additions : Table (Table FieldTable)) : Decidable (Keyed additions) :=
  inferInstanceAs (Decidable (Table.Keyed (Table.Keyed (Table.Keyed fun _ => True)) additions))

theorem read_keyed (source : Json5.Source) (additions : Table (Table FieldTable))
    (read : readAdditions source = .ok additions) : Keyed additions := by
  refine Decode.Reader.table_keyed _ _ _ (fun source types read => ?_) source additions read
  refine Decode.Reader.table_keyed _ _ _ (fun source fields read => ?_) source types read
  exact Decode.Reader.table_keyed _ _ _ (fun _ _ _ => trivial) source fields read

theorem types_join (known types : Table FieldTable) :
    mergeTypes known types = Table.join Table.merge known types := by
  refine congrArg (types.entries.foldl · known) (funext fun joined => funext fun entry => ?_)
  obtain ⟨name, fields⟩ := entry
  simp only
  cases joined.get? name <;> rfl

theorem types_merges :
    Table.Merges (Table.Keyed (Table.Keyed fun _ => True)) mergeTypes := by
  have same : mergeTypes = Table.join Table.merge :=
    funext fun known => funext fun types => types_join known types
  exact same ▸ Table.join_merges (Table.merge_merges fun _ => True)

theorem types_empty (types : Table FieldTable)
    (keyed : Table.Keyed (Table.Keyed fun _ => True) types) : mergeTypes ∅ types = types := by
  rw [types_join]
  exact Table.join_empty types keyed

theorem merge_join (catalog : Catalog) (additions : Table (Table FieldTable))
    (keyed : Keyed additions) :
    catalog.merge additions = ⟨Table.join mergeTypes catalog.infrastructures additions⟩ := by
  obtain ⟨entries⟩ := additions
  have values := keyed.values
  clear keyed
  induction entries generalizing catalog with
  | nil => rfl
  | cons entry rest ih =>
      obtain ⟨own, others⟩ := List.forall_mem_cons.mp values
      have blended : mergeTypes ((catalog.infrastructures.get? entry.1).getD ∅) entry.2 =
          Table.blend mergeTypes (catalog.infrastructures.get? entry.1) entry.2 := by
        cases catalog.infrastructures.get? entry.1 with
        | none => exact types_empty entry.2 own
        | some old => rfl
      rw [Table.join_cons, ← blended]
      exact ih _ others

theorem merge_keyed (catalog : Catalog) (additions : Table (Table FieldTable))
    (first : Keyed catalog.infrastructures) (second : Keyed additions) :
    Keyed (catalog.merge additions).infrastructures := by
  rw [merge_join catalog additions second]
  exact Table.join_keyed types_merges.kept _ _ first second.values

def grown (history : List (Table (Table FieldTable))) : Catalog := history.foldl merge builtin

theorem builtin_keyed : Keyed builtin.infrastructures := by decide

theorem grown_keyed (history : List (Table (Table FieldTable)))
    (keyed : ∀ additions ∈ history, Keyed additions) : Keyed (grown history).infrastructures := by
  induction history using List.reverseRecOn with
  | nil => exact builtin_keyed
  | append_singleton earlier last ih =>
      obtain ⟨before, own⟩ := List.forall_mem_append.mp keyed
      rw [grown, List.foldl_append]
      exact merge_keyed _ last (ih before) (own last (List.mem_singleton_self last))

def types (catalog : Catalog) (infrastructure : String) : Table FieldTable :=
  (catalog.infrastructures.get? infrastructure).getD ∅

def fields (catalog : Catalog) (infrastructure deviceType : String) : FieldTable :=
  (catalog.fields? infrastructure deviceType).getD ∅

theorem fields_types (catalog : Catalog) (infrastructure deviceType : String) :
    catalog.fields infrastructure deviceType =
      ((catalog.types infrastructure).get? deviceType).getD ∅ := by
  rw [fields, fields?, types]
  cases catalog.infrastructures.get? infrastructure <;> rfl

theorem types_keys (catalog : Catalog) (infrastructure : String) :
    catalog.deviceTypes infrastructure = (catalog.types infrastructure).keys := by
  rw [deviceTypes, types]
  cases catalog.infrastructures.get? infrastructure <;> rfl

theorem keyed_types (additions : Table (Table FieldTable)) (keyed : Keyed additions)
    (infrastructure : String) :
    Table.Keyed (Table.Keyed fun _ => True) ((⟨additions⟩ : Catalog).types infrastructure) := by
  rw [types]
  cases found : additions.get? infrastructure with
  | none => exact Table.keyed_empty _
  | some types => exact keyed.valid infrastructure types found

theorem keyed_fields (additions : Table (Table FieldTable)) (keyed : Keyed additions)
    (infrastructure deviceType : String) :
    Table.Keyed (fun _ => True) ((⟨additions⟩ : Catalog).fields infrastructure deviceType) := by
  rw [fields_types]
  cases found : ((⟨additions⟩ : Catalog).types infrastructure).get? deviceType with
  | none => exact Table.keyed_empty _
  | some fields => exact (keyed_types additions keyed infrastructure).valid deviceType fields found

section

variable (catalog : Catalog) (additions : Table (Table FieldTable)) (keyed : Keyed additions)

include keyed

theorem merge_types (infrastructure : String) :
    (catalog.merge additions).types infrastructure =
      mergeTypes (catalog.types infrastructure) ((⟨additions⟩ : Catalog).types infrastructure) := by
  rw [merge_join catalog additions keyed]
  exact Table.join_whole _ additions keyed.distinct ∅ (fun _ => rfl) infrastructure
    fun types found => types_empty types (keyed.valid infrastructure types found)

theorem merge_fields (infrastructure deviceType : String) :
    (catalog.merge additions).fields infrastructure deviceType =
      (catalog.fields infrastructure deviceType).merge
        ((⟨additions⟩ : Catalog).fields infrastructure deviceType) := by
  have own := keyed_types additions keyed infrastructure
  rw [fields_types, fields_types, fields_types, merge_types catalog additions keyed, types_join]
  refine Table.join_whole _ _ own.distinct ∅ (fun _ => rfl) deviceType fun fields found => ?_
  rw [Table.merge_join]
  exact Table.join_empty fields (own.valid deviceType fields found)

end

structure Extends (before : Catalog) (additions : Table (Table FieldTable)) (after : Catalog) :
    Prop where
  known : ∀ infrastructure, (after.infrastructures.get? infrastructure).isSome ↔
    (before.infrastructures.get? infrastructure).isSome ∨ (additions.get? infrastructure).isSome
  others : ∀ infrastructure, additions.get? infrastructure = none →
    after.infrastructures.get? infrastructure = before.infrastructures.get? infrastructure
  types : ∀ infrastructure, after.deviceTypes infrastructure =
    before.deviceTypes infrastructure ++
      (deviceTypes ⟨additions⟩ infrastructure).filter (· ∉ before.deviceTypes infrastructure)
  fields : ∀ infrastructure deviceType, (after.fields infrastructure deviceType).keys =
    (before.fields infrastructure deviceType).keys ++
      (fields ⟨additions⟩ infrastructure deviceType).keys.filter
        (· ∉ (before.fields infrastructure deviceType).keys)
  specs : ∀ infrastructure deviceType field,
    (after.fields infrastructure deviceType).get? field =
      ((Catalog.fields ⟨additions⟩ infrastructure deviceType).get? field).or
        ((before.fields infrastructure deviceType).get? field)

theorem merge_extends (catalog : Catalog) (additions : Table (Table FieldTable))
    (keyed : Keyed additions) : catalog.Extends additions (catalog.merge additions) := by
  constructor
  · intro infrastructure
    rw [merge_join catalog additions keyed, Table.join_get _ _ _ keyed.distinct]
    cases additions.get? infrastructure <;> simp
  · intro infrastructure absent
    rw [merge_join catalog additions keyed, Table.join_get _ _ _ keyed.distinct, absent]
    rfl
  · intro infrastructure
    have own := keyed_types additions keyed infrastructure
    simp only [types_keys]
    rw [merge_types catalog additions keyed, types_join, Table.join_keys _ _ _ own.distinct]
  · intro infrastructure deviceType
    have own := keyed_fields additions keyed infrastructure deviceType
    rw [merge_fields catalog additions keyed, Table.merge_join, Table.join_keys _ _ _ own.distinct]
  · intro infrastructure deviceType field
    have own := keyed_fields additions keyed infrastructure deviceType
    rw [merge_fields catalog additions keyed, Table.merge_join, Table.join_get _ _ _ own.distinct]
    cases (fields ⟨additions⟩ infrastructure deviceType).get? field with
    | none => rfl
    | some new => cases (catalog.fields infrastructure deviceType).get? field <;> rfl

/-- A merge keeps what a catalog has in its place, puts new device types and new fields behind, and
lets an added specification stand for the old one. In what order the infrastructures are visited does
not matter, the same merge again changes nothing, and two merges are one of both additions. -/
theorem merges_extend (history : List (Table (Table FieldTable)))
    (earlier : ∀ additions ∈ history, Keyed additions) (additions : Table (Table FieldTable))
    (keyed : Keyed additions) :
    (grown history).Extends additions ((grown history).merge additions) ∧
      (∀ visited : Table (Table FieldTable), visited.entries.Perm additions.entries →
        ∀ infrastructure,
          ((grown history).merge visited).infrastructures.get? infrastructure =
            ((grown history).merge additions).infrastructures.get? infrastructure) ∧
      ((grown history).merge additions).merge additions = (grown history).merge additions ∧
      ∀ later, Keyed later → ((grown history).merge additions).merge later =
        (grown history).merge (merge ⟨additions⟩ later).infrastructures := by
  have known := grown_keyed history earlier
  have laws := Table.join_merges types_merges
  refine ⟨merge_extends _ additions keyed, fun visited same infrastructure => ?_, ?_,
    fun later third => ?_⟩
  · have again : Keyed visited :=
      ⟨(same.map Prod.fst).nodup_iff.mpr keyed.distinct,
        fun entry member => keyed.values entry (same.mem_iff.mp member)⟩
    rw [merge_join _ visited again, merge_join _ additions keyed, Table.join_get _ _ _ again.distinct,
      Table.join_get _ _ _ keyed.distinct, Table.get_perm additions visited keyed.distinct same]
  · simp only [merge_join _ additions keyed]
    rw [laws.assoc _ _ _ known keyed keyed, laws.again additions keyed]
  · have both := merge_keyed ⟨additions⟩ later keyed third
    rw [merge_join _ later third, merge_join _ _ both, merge_join _ later third,
      merge_join _ additions keyed, laws.assoc _ _ _ known keyed third]

def rescaled : Table (Table FieldTable) :=
  ⟨[("water", ⟨[("tank", ⟨[("level", ⟨.analogRead, {}, {}, none⟩)]⟩)]⟩),
    (defaultInfrastructure, ⟨[
      ("bus", ⟨[("angle", ⟨.analogRead, {}, {}, none⟩),
        ("voltage", ⟨.analogRead, ⟨some 3⟩, {}, none⟩)]⟩),
      ("switch", ⟨[("status", ⟨.binaryRead, {}, {}, none⟩)]⟩)]⟩)]⟩

theorem rescaled_extends :
    Keyed rescaled ∧
      (builtin.merge rescaled).deviceTypes defaultInfrastructure =
        ["node", "bus", "breaker", "capacitor", "regulator", "load", "line", "transformer",
          "switch"] ∧
      ((builtin.merge rescaled).fields defaultInfrastructure "bus").keys = ["voltage", "angle"] ∧
      ((builtin.merge rescaled).fields defaultInfrastructure "bus").get? "voltage" =
        some ⟨.analogRead, ⟨some 3⟩, {}, none⟩ ∧
      (builtin.merge rescaled).merge rescaled = builtin.merge rescaled := by
  have keyed : Keyed rescaled := by decide
  obtain ⟨extended, _, again, _⟩ := merges_extend [] (by simp) rescaled keyed
  refine ⟨keyed, (extended.types _).trans ?_, (extended.fields _ _).trans ?_,
    (extended.specs _ _ _).trans ?_, again⟩
  all_goals decide

end Catalog
end FieldConfig
