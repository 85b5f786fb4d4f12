import FieldConfig.CommandLine
import FieldConfig.Proofs.Outcome

set_option autoImplicit false

-- What a run of writes leaves behind. A write makes no directory and removes none, so every path
-- still leads to the same place afterwards, and each place holds what was written there last.
namespace FieldConfig.FileStore

def SameWays (first second : FileStore) : Prop :=
  first.workingDirectory = second.workingDirectory ∧
    ∀ place, first.held? place = some .directory ↔ second.held? place = some .directory

theorem same_ways_trans (first second third : FileStore) (same : SameWays first second)
    (next : SameWays second third) : SameWays first third :=
  ⟨same.1.trans next.1, fun place => (same.2 place).trans (next.2 place)⟩

theorem enter_directory (store : FileStore) (place next : List String) (name : String)
    (entered : store.enter place name = .ok next) : store.held? place = some .directory := by
  rw [enter] at entered
  split at entered
  · exact absurd entered (by simp)
  · exact absurd entered (by simp)
  · assumption

theorem enter_same (first second : FileStore) (same : SameWays first second)
    (place next : List String) (name : String) (entered : first.enter place name = .ok next) :
    second.enter place name = .ok next := by
  have directory := first.enter_directory place next name entered
  rw [enter, directory] at entered
  rw [enter, (same.2 place).mp directory]
  exact entered

theorem walk_same (first second : FileStore) (same : SameWays first second)
    (names place next : List String) (walked : first.walk place names = .ok next) :
    second.walk place names = .ok next := by
  induction names generalizing place with
  | nil => exact walked
  | cons name rest ih =>
      obtain ⟨inner, entered, onward⟩ := bind_ok _ _ next walked
      rw [walk, enter_same first second same place inner name entered]
      exact ih inner onward

theorem find_same (first second : FileStore) (same : SameWays first second) (path : String)
    (place : List String) (found : first.find path = .ok place) :
    second.find path = .ok place := by
  rw [find] at found ⊢
  split at found
  · exact absurd found (by simp)
  split at found
  · exact absurd found (by simp)
  rename_i noNul short
  rw [if_neg noNul, if_neg short]
  have origins : second.origin path = first.origin path := by rw [origin, origin, same.1]
  rw [origins]
  exact walk_same first second same _ _ place found

theorem lookup_apart (entries : List (List String × FileEntry)) (place other : List String)
    (apart : other ≠ place) :
    (entries.filter (·.1 ≠ place)).lookup other = entries.lookup other := by
  induction entries with
  | nil => rfl
  | cons entry rest ih =>
      obtain ⟨key, entry⟩ := entry
      by_cases here : key = place
      · rw [List.filter_cons_of_neg (by simpa using here), ih, List.lookup_cons,
          beq_eq_false_iff_ne.mpr (here ▸ apart)]
      · rw [List.filter_cons_of_pos (by simpa using here), List.lookup_cons, List.lookup_cons, ih]

theorem entry_put (store : FileStore) (place other : List String) (entry : FileEntry)
    (inside : place ≠ []) :
    held? (store.put place entry) other = if other = place then some entry else store.held? other := by
  by_cases root : other = []
  · rw [if_neg fun same => inside (same.symm.trans root), held?, held?, if_pos root, if_pos root]
  · rw [held?, held?, if_neg root, if_neg root, put, List.lookup_cons]
    by_cases same : other = place
    · rw [if_pos same, same, beq_self_eq_true]
    · rw [if_neg same, beq_eq_false_iff_ne.mpr same]
      exact lookup_apart store.entries place other same

theorem write_ok (store next : FileStore) (path : String) (content : Content)
    (written : store.write path content = .ok next) :
    ∃ place, store.find path = .ok place ∧ store.held? place ≠ some .directory ∧
      next = store.put place (.file content) := by
  obtain ⟨place, found, put⟩ := bind_ok _ _ next written
  refine ⟨place, found, ?_⟩
  split at put
  · cases put
  · rename_i free
    exact ⟨free, (Except.ok.inj put).symm⟩

theorem put_same (store : FileStore) (place : List String) (content : Content)
    (free : store.held? place ≠ some .directory) :
    SameWays store (store.put place (.file content)) ∧
      ∀ other, held? (store.put place (.file content)) other =
        if other = place then some (.file content) else store.held? other := by
  have inside : place ≠ [] := fun root => free (by rw [held?, if_pos root])
  have entries := fun other => store.entry_put place other (.file content) inside
  refine ⟨⟨rfl, fun other => ?_⟩, entries⟩
  rw [entries other]
  by_cases same : other = place
  · rw [if_pos same, same]
    exact iff_of_false free (by simp)
  · rw [if_neg same]

def latest? (store : FileStore) (place : List String) (writes : List (String × Content)) :
    Option Content :=
  (writes.reverse.find? fun write => (store.find write.1).toOption == some place).map Prod.snd

theorem latest_cons (store : FileStore) (place found : List String) (path : String)
    (content : Content) (rest : List (String × Content)) (leads : store.find path = .ok found) :
    store.latest? place ((path, content) :: rest) =
      (store.latest? place rest).or (if place = found then some content else none) := by
  rw [latest?, latest?, List.reverse_cons, List.find?_append, Option.map_or, List.find?_singleton,
    leads]
  by_cases same : place = found
  · simp [Except.toOption, same]
  · simp [Except.toOption, same, Ne.symm same]

theorem writes_performed (store final : FileStore) (writes : List (String × Content))
    (performed : store.performAll (writes.map fun (path, content) => .write path content) =
      (final, .ok ())) :
    SameWays store final ∧ (∀ write ∈ writes, ∃ place, final.find write.1 = .ok place) ∧
      ∀ place, final.held? place =
        ((final.latest? place writes).map FileEntry.file).or (store.held? place) := by
  induction writes generalizing store with
  | nil =>
      cases performed
      exact ⟨⟨rfl, fun _ => Iff.rfl⟩, by simp, fun place => rfl⟩
  | cons write rest ih =>
      obtain ⟨path, content⟩ := write
      rw [List.map_cons, performAll] at performed
      split at performed
      · cases performed
      rename_i next written
      obtain ⟨place, found, free, rfl⟩ := store.write_ok next path content written
      obtain ⟨kept, entries⟩ := store.put_same place content free
      obtain ⟨later, others, last⟩ := ih _ performed
      have ways := same_ways_trans _ _ _ kept later
      have leads := find_same _ _ ways path place found
      refine ⟨ways, List.forall_mem_cons.mpr ⟨⟨place, leads⟩, others⟩, fun other => ?_⟩
      rw [last, entries, final.latest_cons other place path content rest leads]
      cases final.latest? other rest with
      | some newer => rfl
      | none => by_cases same : other = place <;> simp [same]

theorem read_latest (store final : FileStore) (writes : List (String × Content))
    (performed : store.performAll (writes.map fun (path, content) => .write path content) =
      (final, .ok ()))
    (path : String) (written : path ∈ writes.map Prod.fst) :
    ∃ place, final.find path = .ok place ∧
      ∀ content, final.read path = .ok content ↔ final.latest? place writes = some content := by
  obtain ⟨_, found, entries⟩ := store.writes_performed final writes performed
  obtain ⟨write, member, rfl⟩ := List.mem_map.mp written
  obtain ⟨place, leads⟩ := found write member
  have held : (final.latest? place writes).isSome = true := by
    rw [latest?, Option.isSome_map, List.find?_isSome]
    exact ⟨write, List.mem_reverse.mpr member, by simp [leads, Except.toOption]⟩
  obtain ⟨newest, last⟩ := Option.isSome_iff_exists.mp held
  have entry := entries place
  rw [last, Option.map_some, Option.some_or] at entry
  refine ⟨place, leads, fun content => ?_⟩
  have reads : final.read write.1 = .ok newest := by
    rw [read, leads]
    simp only [bind, Except.bind, entry]
    rfl
  rw [reads, last, Except.ok.injEq, Option.some.injEq]

end FieldConfig.FileStore
