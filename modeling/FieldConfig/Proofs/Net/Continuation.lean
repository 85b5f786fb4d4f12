import FieldConfig.Proofs.Net.Address

set_option autoImplicit false

-- When an IPv6 address followed by a colon and one more text is an IPv6 address again: it has a gap with
-- room for the text as a group, and ends in a group.
namespace FieldConfig.Net

theorem groups_next (embedded : Bool) (piece next : List Char) (rest : List (List Char)) :
    groups? embedded (piece :: next :: rest) =
      (group? piece).bind fun group => (groups? embedded (next :: rest)).map (group :: ·) := by
  simp [groups?, Option.map_eq_bind]

theorem groups_last (embedded : Bool) (piece : List Char)
    (plain : embedded = true → V4.parse? piece = none) :
    groups? embedded [piece] = (group? piece).map ([·]) := by
  cases here : group? piece with
  | some group => simp [groups?, here]
  | none =>
      cases embedded with
      | false => simp [groups?, here]
      | true => simp [groups?, here, plain rfl]

theorem groups_behind (parts : List (List Char)) (text : List Char) (undotted : '.' ∉ text) :
    groups? true (parts ++ [text]) =
      (groups? false parts).bind fun groups => (group? text).map fun group => groups ++ [group] := by
  induction parts with
  | nil => exact groups_last true text fun _ => V4.parse_plain text undotted
  | cons piece rest ih =>
      cases rest with
      | nil =>
          have single := groups_last true text fun _ => V4.parse_plain text undotted
          have first := groups_last false piece nofun
          rw [List.cons_append, List.nil_append, groups_next, single, first]
          cases group? piece <;> cases group? text <;> rfl
      | cons next rest =>
          rw [List.cons_append] at ih
          rw [List.cons_append, List.cons_append, groups_next, ih, groups_next]
          cases group? piece <;> cases groups? false (next :: rest) <;> cases group? text <;> rfl

theorem groups_embedded (parts : List (List Char)) (groups : List UInt16)
    (read : groups? false parts = some groups) : groups? true parts = some groups := by
  induction parts generalizing groups with
  | nil => exact read
  | cons piece rest ih =>
      cases rest with
      | nil =>
          rw [groups_last false piece nofun] at read
          obtain ⟨group, here, same⟩ := Option.map_eq_some_iff.mp read
          simp [groups?, here, same]
      | cons next rest =>
          rw [groups_next] at read ⊢
          obtain ⟨group, here, read⟩ := Option.bind_eq_some_iff.mp read
          obtain ⟨others, later, same⟩ := Option.map_eq_some_iff.mp read
          rw [here, Option.bind_some, ih others later, Option.map_some, same]

namespace V6

def Open (name : List Char) : Prop :=
  ∃ before behind head tail, cutGap? name = some (before, behind) ∧
    side? false before = some head ∧ groups? false (Text.pieces ':' behind) = some tail ∧
    head.length + tail.length < 7

theorem parse_filled (name text : List Char) (address : V6)
    (listed : groups? true (Text.pieces ':' name) = some address.groups) (plain : ':' ∉ text)
    (undotted : '.' ∉ text) : parse? (name ++ ':' :: text) = none := by
  have whole : cutGap? (name ++ ':' :: text) = none := by
    have gapless := cut_gap_none _ (groups_pieces true _ _ listed) text plain
    rwa [Text.join_pieces] at gapless
  rw [parse?, whole]
  simp only [Text.pieces_append, Text.pieces_whole ':' text plain, groups_behind _ text undotted]
  cases first : groups? false (Text.pieces ':' name) with
  | none => rfl
  | some groups =>
      have same : groups = address.groups :=
        Option.some.inj ((groups_embedded _ groups first).symm.trans listed)
      cases group? text with
      | none => rfl
      | some group => simp [ofGroups?, same, address.eight]

theorem parse_continued_iff (name text : List Char) (address : V6)
    (read : parse? name = some address) (plain : ':' ∉ text) (undotted : '.' ∉ text) :
    (parse? (name ++ ':' :: text)).isSome ↔ Open name ∧ (group? text).isSome := by
  rcases parse_cases name address read with ⟨uncut, listed⟩ | ⟨before, behind, head, _, cut, first, _⟩
  · rw [parse_filled name text address listed plain undotted]
    simp [Open, uncut]
  · have longer := cut_gap_append name before behind (':' :: text) cut
    have tail : side? true (behind ++ ':' :: text) =
        (groups? false (Text.pieces ':' behind)).bind fun groups =>
          (group? text).map fun group => groups ++ [group] := by
      rw [side?, if_neg (by simp), Text.pieces_append, Text.pieces_whole ':' text plain,
        groups_behind _ text undotted]
    constructor
    · intro found
      obtain ⟨whole, found⟩ := Option.isSome_iff_exists.mp found
      rcases parse_cases _ whole found with ⟨uncut, _⟩ | ⟨_, _, _, others, again, own, later, room, _⟩
      · cases longer.symm.trans uncut
      · cases longer.symm.trans again
        cases first.symm.trans own
        obtain ⟨groups, listed, grouped⟩ := Option.bind_eq_some_iff.mp (tail.symm.trans later)
        obtain ⟨group, here, rfl⟩ := Option.map_eq_some_iff.mp grouped
        rw [List.length_append, List.length_singleton] at room
        exact ⟨⟨before, behind, head, groups, cut, first, listed, by omega⟩, by rw [here]; rfl⟩
    · rintro ⟨⟨_, _, _, others, again, own, listed, room⟩, grouped⟩
      obtain ⟨group, here⟩ := Option.isSome_iff_exists.mp grouped
      cases cut.symm.trans again
      cases first.symm.trans own
      rw [listed, here] at tail
      have sized : (others ++ [group]).length = others.length + 1 := List.length_append
      rw [parse_cut _ _ _ head (others ++ [group]) longer first tail (by omega),
        of_groups _ (by simp only [List.length_append, List.length_replicate, sized]; omega),
        Option.isSome_some]

end V6
end FieldConfig.Net
