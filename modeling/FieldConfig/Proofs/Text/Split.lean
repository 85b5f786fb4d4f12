import FieldConfig.Text.Split

set_option autoImplicit false

namespace FieldConfig.Text

theorem cut_none (mark : Char) (chars : List Char) (absent : mark ∉ chars) :
    cut? mark chars = none := by
  induction chars with
  | nil => rfl
  | cons c rest ih =>
      obtain ⟨here, later⟩ := not_or.mp (mt List.mem_cons.mpr absent)
      rw [cut?, if_neg (Ne.symm here), ih later, Option.map_none]

theorem cut_first (mark : Char) (before behind : List Char) (absent : mark ∉ before) :
    cut? mark (before ++ mark :: behind) = some (before, behind) := by
  induction before with
  | nil => simp [cut?]
  | cons c rest ih =>
      obtain ⟨here, later⟩ := not_or.mp (mt List.mem_cons.mpr absent)
      rw [List.cons_append, cut?, if_neg (Ne.symm here), ih later, Option.map_some]

theorem cut_whole (mark : Char) (chars before behind : List Char)
    (cut : cut? mark chars = some (before, behind)) :
    chars = before ++ mark :: behind ∧ mark ∉ before := by
  induction chars generalizing before with
  | nil => cases cut
  | cons c rest ih =>
      rw [cut?] at cut
      split at cut
      · next here =>
          cases cut
          exact ⟨by rw [here, List.nil_append], List.not_mem_nil⟩
      · next other =>
          obtain ⟨⟨inner, _⟩, later, same⟩ := Option.map_eq_some_iff.mp cut
          cases same
          obtain ⟨whole, absent⟩ := ih inner later
          exact ⟨by rw [whole, List.cons_append], List.not_mem_cons_of_ne_of_not_mem (Ne.symm other) absent⟩

theorem pieces_first (mark : Char) (before behind : List Char) (absent : mark ∉ before) :
    pieces mark (before ++ mark :: behind) = before :: pieces mark behind := by
  induction before with
  | nil => simp [pieces]
  | cons c rest ih =>
      obtain ⟨here, later⟩ := not_or.mp (mt List.mem_cons.mpr absent)
      rw [List.cons_append, pieces, if_neg (Ne.symm here), ih later]

theorem pieces_whole (mark : Char) (chars : List Char) (absent : mark ∉ chars) :
    pieces mark chars = [chars] := by
  induction chars with
  | nil => rfl
  | cons c rest ih =>
      obtain ⟨here, later⟩ := not_or.mp (mt List.mem_cons.mpr absent)
      rw [pieces, if_neg (Ne.symm here), ih later]

theorem pieces_present (mark : Char) (chars : List Char) :
    ∃ piece others, pieces mark chars = piece :: others := by
  cases chars with
  | nil => exact ⟨[], [], rfl⟩
  | cons c rest =>
      rw [pieces]
      split
      · exact ⟨[], _, rfl⟩
      · split
        · exact ⟨[c], [], rfl⟩
        · rename_i piece others _
          exact ⟨c :: piece, others, rfl⟩

theorem pieces_append (mark : Char) (before behind : List Char) :
    pieces mark (before ++ mark :: behind) = pieces mark before ++ pieces mark behind := by
  induction before with
  | nil => simp [pieces]
  | cons c rest ih =>
      obtain ⟨piece, others, first⟩ := pieces_present mark rest
      rw [List.cons_append, pieces, pieces, ih, first]
      split <;> rfl

theorem join_next (mark : Char) (part next : List Char) (rest : List (List Char)) :
    join mark (part :: next :: rest) = part ++ mark :: join mark (next :: rest) := rfl

theorem pieces_join (mark : Char) (parts : List (List Char)) (written : parts ≠ [])
    (plain : ∀ part ∈ parts, mark ∉ part) : pieces mark (join mark parts) = parts := by
  induction parts with
  | nil => exact absurd rfl written
  | cons part rest ih =>
      obtain ⟨absent, others⟩ := List.forall_mem_cons.mp plain
      cases rest with
      | nil => exact pieces_whole mark part absent
      | cons next rest =>
          rw [join_next, pieces_first mark part _ absent, ih (List.cons_ne_nil next rest) others]

theorem join_pieces (mark : Char) (chars : List Char) : join mark (pieces mark chars) = chars := by
  induction chars with
  | nil => rfl
  | cons c rest ih =>
      obtain ⟨piece, others, first⟩ := pieces_present mark rest
      rw [first] at ih
      rw [pieces, first]
      by_cases here : c = mark
      · rw [if_pos here, join_next, ih, here, List.nil_append]
      · rw [if_neg here]
        cases others with
        | nil => exact congrArg (c :: ·) ih
        | cons next others => exact congrArg (c :: ·) ih

theorem join_chars (mark : Char) (parts : List (List Char)) (c : Char)
    (member : c ∈ join mark parts) : c = mark ∨ ∃ part ∈ parts, c ∈ part := by
  induction parts with
  | nil => cases member
  | cons part rest ih =>
      cases rest with
      | nil => exact .inr ⟨part, List.mem_cons_self, member⟩
      | cons next rest =>
          rcases List.mem_append.mp member with here | behind
          · exact .inr ⟨part, List.mem_cons_self, here⟩
          · rcases List.mem_cons.mp behind with same | later
            · exact .inl same
            · exact (ih later).imp id fun ⟨other, among, inside⟩ =>
                ⟨other, List.mem_cons_of_mem part among, inside⟩

theorem cut_last (mark : Char) (before behind : List Char) (absent : mark ∉ behind) :
    cutLast? mark (before ++ mark :: behind) = some (before, behind) := by
  have turned : (before ++ mark :: behind).reverse = behind.reverse ++ mark :: before.reverse := by
    simp
  rw [cutLast?, turned, cut_first mark _ _ (by simpa using absent)]
  simp

theorem cut_last_whole (mark : Char) (chars before behind : List Char)
    (cut : cutLast? mark chars = some (before, behind)) :
    chars = before ++ mark :: behind ∧ mark ∉ behind := by
  obtain ⟨⟨last, first⟩, turned, same⟩ := Option.map_eq_some_iff.mp cut
  cases same
  obtain ⟨whole, absent⟩ := cut_whole mark _ last first turned
  exact ⟨by simpa using congrArg List.reverse whole, by simpa using absent⟩

theorem cuts_iff (mark : Char) (before behind first rest : List Char) :
    before ++ mark :: behind = first ++ mark :: rest ↔
      (before = first ∧ behind = rest) ∨
        ∃ middle, (before = first ++ mark :: middle ∧ rest = middle ++ mark :: behind) ∨
          (first = before ++ mark :: middle ∧ behind = middle ++ mark :: rest) := by
  constructor
  · intro same
    rcases List.append_eq_append_iff.mp same with ⟨between, longer, later⟩ | ⟨between, longer, later⟩
    · cases between with
      | nil => exact .inl ⟨by simpa using longer.symm, by simpa using later⟩
      | cons c middle =>
          obtain ⟨rfl, parts⟩ := List.cons.inj later
          exact .inr ⟨middle, .inr ⟨longer, parts⟩⟩
    · cases between with
      | nil => exact .inl ⟨by simpa using longer, by simpa using later.symm⟩
      | cons c middle =>
          obtain ⟨rfl, parts⟩ := List.cons.inj later
          exact .inr ⟨middle, .inl ⟨longer, parts⟩⟩
  · rintro (⟨rfl, rfl⟩ | ⟨middle, ⟨rfl, rfl⟩ | ⟨rfl, rfl⟩⟩) <;> simp

end FieldConfig.Text
