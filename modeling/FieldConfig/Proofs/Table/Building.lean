import FieldConfig.Decode.Reader
import FieldConfig.Proofs.Repetition
import FieldConfig.Proofs.Table.Joining

set_option autoImplicit false

-- Tables in whatever way they came about: the keys stand in the order in which they came first, and
-- the last value that came under a key stands there. So a merge is known by what went into both.
namespace FieldConfig.Table

variable {α : Type}

-- A table with all that was put into it, one after the other. A merge puts in what was put into
-- either, that of the second behind that of the first.
inductive Built : Table α → List (String × α) → Prop where
  | empty : Built ∅ []
  | insert (table : Table α) (inserted : List (String × α)) (key : String) (value : α)
      (built : Built table inserted) : Built (table.insert key value) (inserted ++ [(key, value)])
  | collect (entries : List (String × α)) : Built (ofList entries) entries
  | read (expected : String) (reader : Decode.Reader α)
      (members : List (List Json5.Piece × Json5.Source)) (entries : List (String × α))
      (table : Table α) (listed : Decode.Reader.entries reader members = .ok entries)
      (decoded : Decode.Reader.table expected reader (.object members) = .ok table) :
      Built table entries
  | merge (table other : Table α) (inserted others : List (String × α))
      (first : Built table inserted) (second : Built other others) :
      Built (table.merge other) (inserted ++ others)

structure Tells (table : Table α) (inserted : List (String × α)) : Prop where
  keys : table.keys = (inserted.map Prod.fst).eraseDups
  values : ∀ key, table.get? key = inserted.reverse.lookup key

theorem Tells.distinct {table : Table α} {inserted : List (String × α)}
    (tells : table.Tells inserted) : table.keys.Nodup := by
  rw [tells.keys]
  exact eraseDups_distinct _

theorem insert_tells (table : Table α) (inserted : List (String × α)) (key : String) (value : α)
    (tells : table.Tells inserted) : (table.insert key value).Tells (inserted ++ [(key, value)]) where
  keys := by
    rw [keys_insert, tells.keys, List.map_append, List.map_cons, List.map_nil, eraseDups_snoc]
    simp only [List.mem_eraseDups]
  values other := by
    rw [get_insert, tells.values, List.reverse_append, List.reverse_singleton, List.singleton_append,
      List.lookup_cons]
    by_cases same : other = key
    · simp [same]
    · have apart : (other == key) = false := beq_false_of_ne same
      rw [if_neg same, apart]

theorem entries_tell (table : Table α) (inserted entries : List (String × α))
    (tells : table.Tells inserted) : (table.merge ⟨entries⟩).Tells (inserted ++ entries) := by
  induction entries generalizing table inserted with
  | nil => simpa [merge] using tells
  | cons entry rest ih =>
      have next := ih _ _ (insert_tells table inserted entry.1 entry.2 tells)
      simpa [merge] using next

theorem list_tells (entries : List (String × α)) : (ofList entries).Tells entries :=
  entries_tell ∅ [] entries ⟨rfl, fun _ => rfl⟩

theorem Tells.behind {table other : Table α} {inserted others : List (String × α)}
    (second : other.Tells others) (tells : table.Tells (inserted ++ other.entries)) :
    table.Tells (inserted ++ others) where
  keys := by
    have known : other.entries.map Prod.fst = (others.map Prod.fst).eraseDups := second.keys
    rw [tells.keys, List.map_append, List.map_append, known, eraseDups_behind]
  values key := by
    have last : other.entries.reverse.lookup key = others.reverse.lookup key := by
      rw [← second.values]
      exact get_perm other ⟨other.entries.reverse⟩ second.distinct (List.reverse_perm _) key
    rw [tells.values, List.reverse_append, List.reverse_append, List.lookup_append,
      List.lookup_append, last]

theorem built_tells (table : Table α) (inserted : List (String × α))
    (built : Built table inserted) : table.Tells inserted := by
  induction built with
  | empty => exact ⟨rfl, fun _ => rfl⟩
  | insert table inserted key value _ ih => exact insert_tells table inserted key value ih
  | collect entries => exact list_tells entries
  | read expected reader members entries table listed decoded =>
      have same : ofList entries = table := by
        simpa [Decode.Reader.table, listed] using decoded
      exact same ▸ list_tells entries
  | merge table other inserted others _ _ first second =>
      exact second.behind (entries_tell table inserted other.entries first)

theorem merge_get (table other : Table α) (distinct : other.keys.Nodup) (key : String) :
    (table.merge other).get? key = (other.get? key).or (table.get? key) := by
  rw [merge_join, join_get _ table other distinct]
  have latest : blend (fun _ new => new) (table.get? key) = id := by
    cases table.get? key <;> rfl
  rw [latest, Option.map_id, id]

/-- Keys stand in the order in which they came first, with the values that came last; merging is
associative and idempotent, the empty table changes nothing, and the second table goes first. -/
theorem built_laws :
    (∀ (table : Table α) (inserted : List (String × α)), Built table inserted →
      table.keys.Nodup ∧ table.keys = (inserted.map Prod.fst).eraseDups ∧
        ∀ key, table.get? key = inserted.reverse.lookup key) ∧
    ∀ (a b c : Table α) (first second third : List (String × α)),
      Built a first → Built b second → Built c third →
        (a.merge b).merge c = a.merge (b.merge c) ∧
        a.merge a = a ∧ (a.merge b).merge b = a.merge b ∧
        (∅ : Table α).merge a = a ∧ a.merge ∅ = a ∧
        ∀ key, (a.merge b).get? key = (b.get? key).or (a.get? key) := by
  have keyed (table : Table α) (inserted : List (String × α)) (built : Built table inserted) :
      Keyed (fun _ => True) table :=
    ⟨(built_tells table inserted built).distinct, fun _ _ => trivial⟩
  have merges := merge_merges (α := α) fun _ => True
  refine ⟨fun table inserted built => ?_, fun a b c first second third builtA builtB builtC => ?_⟩
  · have tells := built_tells table inserted built
    exact ⟨tells.distinct, tells.keys, tells.values⟩
  · have keyedA := keyed a first builtA
    have keyedB := keyed b second builtB
    refine ⟨merges.assoc a b c keyedA keyedB (keyed c third builtC), merges.again a keyedA, ?_, ?_,
      rfl, merge_get a b keyedB.distinct⟩
    · rw [merges.assoc a b b keyedA keyedB keyedB, merges.again b keyedB]
    · rw [merge_join]
      exact join_empty a keyedA

theorem relabelling_built :
    ∃ base extra : Table String,
      Built base [("site", "north"), ("phase", "a"), ("site", "south")] ∧
      Built extra [("kind", "pole"), ("site", "east")] ∧
      base.keys = ["site", "phase"] ∧ base.get? "site" = some "south" ∧
      (base.merge extra).entries = [("site", "east"), ("phase", "a"), ("kind", "pole")] ∧
      (base.merge extra).merge base = base.merge (extra.merge base) ∧
      (base.merge extra).get? "phase" = (extra.get? "phase").or (base.get? "phase") := by
  have base := Built.collect [("site", "north"), ("phase", "a"), ("site", "south")]
  have extra := (Built.empty.insert _ _ "kind" "pole").insert _ _ "site" "east"
  obtain ⟨-, keys, values⟩ := built_laws.1 _ _ base
  obtain ⟨assoc, -, -, -, -, get⟩ := built_laws.2 _ _ _ _ _ _ base extra base
  refine ⟨_, _, base, extra, keys.trans (by decide), (values "site").trans (by decide), by decide,
    assoc, get "phase"⟩

end FieldConfig.Table
