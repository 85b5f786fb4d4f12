import FieldConfig.CommandLine
import FieldConfig.Proofs.Outcome
import FieldConfig.Proofs.Text.Split

set_option autoImplicit false

-- Where the files of one directory are. A name without a slash stands alone behind the names of the
-- directory, so files of different names are at different places.
namespace FieldConfig.FileStore

theorem join_slash (directory : String) (nonempty : directory ≠ "") :
    ∃ before : List Char, (before ++ ['/']).head? = directory.toList.head? ∧
      ∀ file : String, '/' ∉ file.toList →
        (joinPath directory file).toList = before ++ '/' :: file.toList := by
  have named : directory.toList ≠ [] := fun empty => nonempty (String.toList_eq_nil_iff.mp empty)
  have relative (file : String) (single : '/' ∉ file.toList) : file.toList.head? ≠ some '/' :=
    fun first => single (List.mem_of_mem_head? first)
  by_cases closed : directory.toList.getLast? = some '/'
  · obtain ⟨before, ends⟩ := List.getLast?_eq_some_iff.mp closed
    refine ⟨before, by rw [ends], fun file single => ?_⟩
    simp [joinPath, relative file single, nonempty, ends]
  · have first : (directory.toList ++ ['/']).head? = directory.toList.head? := by
      rw [List.head?_append, Option.or_of_isSome (List.isSome_head?.mpr named)]
    refine ⟨directory.toList, first, fun file single => ?_⟩
    simp [joinPath, relative file single, nonempty, closed]

theorem join_names (directory : String) :
    ∃ way, ∀ file : String, '/' ∉ file.toList →
      names (joinPath directory file) = way ++ [file] ∧
        ∀ store : FileStore, store.origin (joinPath directory file) = store.origin directory := by
  by_cases empty : directory = ""
  · refine ⟨[], fun file single => ?_⟩
    have joined : joinPath directory file = file := by simp [joinPath, empty]
    have relative : file.toList.head? ≠ some '/' :=
      fun first => single (List.mem_of_mem_head? first)
    rw [joined, names, Text.pieces_whole '/' _ single, List.map_singleton, String.ofList_toList]
    refine ⟨rfl, fun store => ?_⟩
    rw [origin, origin, if_neg relative, empty]
    rfl
  · obtain ⟨before, head, joined⟩ := join_slash directory empty
    refine ⟨(Text.pieces '/' before).map String.ofList, fun file single => ?_⟩
    rw [names, joined file single, Text.pieces_append, Text.pieces_whole '/' _ single,
      List.map_append, List.map_singleton, String.ofList_toList]
    refine ⟨rfl, fun store => ?_⟩
    rw [origin, origin, joined file single, ← head]
    simp

theorem walk_last (store : FileStore) (way place next : List String) (name : String)
    (walked : store.walk place (way ++ [name]) = .ok next) :
    ∃ inner, store.walk place way = .ok inner ∧ store.enter inner name = .ok next := by
  induction way generalizing place with
  | nil =>
      obtain ⟨inner, entered, onward⟩ := bind_ok _ _ next walked
      cases onward
      exact ⟨place, rfl, entered⟩
  | cons first rest ih =>
      obtain ⟨inner, entered, onward⟩ := bind_ok _ _ next walked
      obtain ⟨last, walked, entering⟩ := ih inner onward
      refine ⟨last, ?_, entering⟩
      rw [walk, entered]
      exact walked

def isOwn (name : String) : Bool := name ≠ "" && name ≠ "." && name ≠ ".."

theorem enter_own (store : FileStore) (place next : List String) (name : String)
    (own : isOwn name = true) (entered : store.enter place name = .ok next) :
    next = place ++ [name] := by
  simp only [isOwn, ne_eq, decide_not, Bool.and_eq_true, Bool.not_eq_true', decide_eq_false_iff_not] at own
  obtain ⟨⟨named, here⟩, around⟩ := own
  rw [enter] at entered
  split at entered
  · cases entered
  · cases entered
  · rw [if_neg (not_or.mpr ⟨named, here⟩), if_neg around] at entered
    split at entered
    · cases entered
    · exact (Except.ok.inj entered).symm

theorem find_walk (store : FileStore) (path : String) (place : List String)
    (found : store.find path = .ok place) : store.walk (store.origin path) (names path) = .ok place := by
  rw [find] at found
  split at found
  · cases found
  · split at found
    · cases found
    · exact found

theorem files_apart (store : FileStore) (directory first second : String) (place : List String)
    (firstSingle : '/' ∉ first.toList) (firstOwn : isOwn first = true)
    (secondSingle : '/' ∉ second.toList) (secondOwn : isOwn second = true)
    (firstFound : store.find (joinPath directory first) = .ok place)
    (secondFound : store.find (joinPath directory second) = .ok place) : first = second := by
  obtain ⟨way, joined⟩ := join_names directory
  have ends (file : String) (single : '/' ∉ file.toList) (own : isOwn file = true)
      (found : store.find (joinPath directory file) = .ok place) :
      ∃ base, store.walk (store.origin directory) way = .ok base ∧ place = base ++ [file] := by
    have walked := store.find_walk _ place found
    rw [(joined file single).1, (joined file single).2] at walked
    obtain ⟨base, reached, entered⟩ := store.walk_last way _ place file walked
    exact ⟨base, reached, store.enter_own base place file own entered⟩
  obtain ⟨base, reached, here⟩ := ends first firstSingle firstOwn firstFound
  obtain ⟨other, alsoReached, there⟩ := ends second secondSingle secondOwn secondFound
  cases reached.symm.trans alsoReached
  exact List.singleton_inj.mp (List.append_cancel_left (here.symm.trans there))

end FieldConfig.FileStore
