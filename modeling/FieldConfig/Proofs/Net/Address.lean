import FieldConfig.Proofs.Net.Digits
import FieldConfig.Proofs.Text.Split

set_option autoImplicit false

-- An address is read back from its text. What has the form of an IPv4 address has no colon and what has
-- the form of an IPv6 address has one, so no text is both.
namespace FieldConfig.Net

def Pieces (parts : List (List Char)) : Prop := ∀ part ∈ parts, part ≠ [] ∧ ':' ∉ part

theorem Pieces.plain {parts : List (List Char)} (pieces : Pieces parts) :
    ∀ part ∈ parts, ':' ∉ part := fun part member => (pieces part member).2

theorem hex_pieces (parts : List (List Char))
    (written : ∀ part ∈ parts, part ≠ [] ∧ ∀ c ∈ part, (Text.hexDigit? c).isSome ∨ c = '.') :
    Pieces parts := by
  intro part member
  obtain ⟨present, digits⟩ := written part member
  refine ⟨present, fun colon => ?_⟩
  rcases digits ':' colon with digit | dot
  · exact absurd digit (by decide)
  · exact absurd dot (by decide)

namespace V4

theorem text_chars (address : V4) : ∀ c ∈ address.text, c.isDigit ∨ c = '.' := by
  intro c member
  rcases Text.join_chars '.' _ c member with dot | ⟨part, among, inside⟩
  · exact .inr dot
  · refine .inl ?_
    simp only [List.mem_cons, List.not_mem_nil, or_false] at among
    rcases among with rfl | rfl | rfl | rfl <;>
      exact Text.decimal_digits _ c inside

theorem dotted_without (mark : Char) (undigit : ¬ mark.isDigit) (undotted : mark ≠ '.')
    (chars : List Char) (dotted : ∀ c ∈ chars, c.isDigit ∨ c = '.') : mark ∉ chars := fun member =>
  (dotted mark member).elim undigit undotted

theorem text_plain (address : V4) : ':' ∉ address.text :=
  dotted_without ':' (by decide) (by decide) address.text address.text_chars

theorem text_written (address : V4) : address.text ≠ [] :=
  List.append_ne_nil_of_left_ne_nil Nat.toDigits_ne_nil _

theorem text_ungrouped (address : V4) : group? address.text = none := by
  cases read : group? address.text with
  | none => rfl
  | some group =>
      have dotted : '.' ∈ address.text := List.mem_append_right _ List.mem_cons_self
      exact absurd ((group_chars _ group read).2 '.' dotted) (by decide)

theorem parse_text (address : V4) : parse? address.text = some address := by
  have plain : ∀ part ∈ [Nat.toDigits 10 address.first.toNat, Nat.toDigits 10 address.second.toNat,
      Nat.toDigits 10 address.third.toNat, Nat.toDigits 10 address.fourth.toNat], '.' ∉ part := by
    intro part among dot
    simp only [List.mem_cons, List.not_mem_nil, or_false] at among
    rcases among with rfl | rfl | rfl | rfl <;>
      exact Text.decimal_without '.' (by decide) _ dot
  rw [parse?, text, Text.pieces_join '.' _ (List.cons_ne_nil _ _) plain]
  simp only [octet_read]
  rfl

theorem parse_chars (chars : List Char) (address : V4) (read : parse? chars = some address) :
    ∀ c ∈ chars, c.isDigit ∨ c = '.' := by
  intro c member
  rw [← Text.join_pieces '.' chars] at member
  rcases Text.join_chars '.' _ c member with dot | ⟨part, among, inside⟩
  · exact .inr dot
  · refine .inl ?_
    rw [parse?] at read
    split at read
    · next a b c d parts =>
        obtain ⟨_, first, read⟩ := Option.bind_eq_some_iff.mp read
        obtain ⟨_, second, read⟩ := Option.bind_eq_some_iff.mp read
        obtain ⟨_, third, read⟩ := Option.bind_eq_some_iff.mp read
        obtain ⟨_, fourth, _⟩ := Option.bind_eq_some_iff.mp read
        rw [parts] at among
        simp only [List.mem_cons, List.not_mem_nil, or_false] at among
        rcases among with rfl | rfl | rfl | rfl
        · exact octet_chars _ _ first _ inside
        · exact octet_chars _ _ second _ inside
        · exact octet_chars _ _ third _ inside
        · exact octet_chars _ _ fourth _ inside
    · cases read

theorem groups_of (high low : UInt16) : (ofGroups high low).groups = [high, low] := by
  have part (number : UInt16) :
      UInt16.ofNat ((UInt8.ofNat (number.toNat / 256)).toNat * 256 +
        (UInt8.ofNat (number.toNat % 256)).toNat) = number := by
    have bound : number.toNat < 65536 := number.toNat_lt
    have size : UInt8.size = 256 := rfl
    rw [UInt8.toNat_ofNat_of_lt' (by omega), UInt8.toNat_ofNat_of_lt' (by omega),
      Nat.div_add_mod', UInt16.ofNat_toNat]
  simp only [groups, ofGroups, part]

theorem parse_plain (chars : List Char) (absent : '.' ∉ chars) : parse? chars = none := by
  rw [parse?, Text.pieces_whole '.' chars absent]

end V4

theorem groups_texts (embedded : Bool) (groups : List UInt16) :
    groups? embedded (groups.map fun group => Nat.toDigits 16 group.toNat) = some groups := by
  induction groups with
  | nil => rfl
  | cons group rest ih =>
      cases rest with
      | nil => simp [groups?, group_read]
      | cons next rest =>
          rw [List.map_cons] at ih
          simp [groups?, group_read, ih]

theorem groups_chars (embedded : Bool) (parts : List (List Char)) (groups : List UInt16)
    (read : groups? embedded parts = some groups) :
    ∀ part ∈ parts, part ≠ [] ∧ ∀ c ∈ part, (Text.hexDigit? c).isSome ∨ c = '.' := by
  have own (piece : List Char) (group : UInt16) (here : group? piece = some group) :
      piece ≠ [] ∧ ∀ c ∈ piece, (Text.hexDigit? c).isSome ∨ c = '.' :=
    ⟨(group_chars piece group here).1, fun c member => .inl ((group_chars piece group here).2 c member)⟩
  induction parts generalizing groups with
  | nil => simp
  | cons piece rest ih =>
      cases rest with
      | nil =>
          refine List.forall_mem_singleton.mpr ?_
          cases here : group? piece with
          | some group => exact own piece group here
          | none =>
              cases embedded with
              | false => simp [groups?, here] at read
              | true =>
                  simp only [groups?, here] at read
                  obtain ⟨address, found, _⟩ := Option.map_eq_some_iff.mp read
                  refine ⟨?_, fun c member => ?_⟩
                  · rintro rfl
                    cases found
                  · exact (V4.parse_chars piece address found c member).imp (Text.decimal_hex c) id
      | cons next rest =>
          obtain ⟨group, here, read⟩ := Option.bind_eq_some_iff.mp read
          obtain ⟨others, later, _⟩ := Option.bind_eq_some_iff.mp read
          exact List.forall_mem_cons.mpr ⟨own piece group here, ih others later⟩

theorem groups_pieces (embedded : Bool) (parts : List (List Char)) (groups : List UInt16)
    (read : groups? embedded parts = some groups) : Pieces parts :=
  hex_pieces parts (groups_chars embedded parts groups read)

theorem cut_gap_next (c : Char) (rest : List Char)
    (apart : ∀ behind, c :: rest ≠ ':' :: ':' :: behind) :
    cutGap? (c :: rest) = (cutGap? rest).map fun (before, behind) => (c :: before, behind) := by
  rw [cutGap?]
  rintro behind rfl rfl
  exact apart behind rfl

theorem cut_gap_plain (chars rest : List Char) (plain : ':' ∉ chars) :
    cutGap? (chars ++ rest) =
      (cutGap? rest).map fun (before, behind) => (chars ++ before, behind) := by
  induction chars with
  | nil => simp
  | cons c chars ih =>
      obtain ⟨here, later⟩ := not_or.mp (mt List.mem_cons.mpr plain)
      rw [List.cons_append, cut_gap_next c _ (fun _ same => here (List.cons.inj same).1.symm), ih later,
        Option.map_map]
      rfl

theorem cut_gap_join (parts : List (List Char)) (pieces : Pieces parts) (rest : List Char) :
    cutGap? (Text.join ':' parts ++ rest) =
      (cutGap? rest).map fun (before, behind) => (Text.join ':' parts ++ before, behind) := by
  induction parts with
  | nil => simp [Text.join]
  | cons part others ih =>
      obtain ⟨own, behind⟩ := List.forall_mem_cons.mp pieces
      cases others with
      | nil => exact cut_gap_plain part rest own.2
      | cons next others =>
          -- The piece behind the colon does not begin with one.
          have apart : ∀ chars, ':' :: (Text.join ':' (next :: others) ++ rest) ≠ ':' :: ':' :: chars := by
            obtain ⟨present, plain⟩ := behind next List.mem_cons_self
            obtain ⟨c, chars, rfl⟩ := List.exists_cons_of_ne_nil present
            intro other same
            have first : c = ':' := by
              cases others <;> exact (List.cons.inj (List.cons.inj same).2).1
            exact plain (first ▸ List.mem_cons_self)
          rw [Text.join_next, List.append_assoc, cut_gap_plain part _ own.2, List.cons_append,
            cut_gap_next ':' _ apart, ih behind, Option.map_map, Option.map_map]
          simp [Function.comp_def]

theorem cut_gap_none (parts : List (List Char)) (pieces : Pieces parts) (text : List Char)
    (plain : ':' ∉ text) : cutGap? (Text.join ':' parts ++ ':' :: text) = none := by
  have single : cutGap? (':' :: text) = none := by
    rw [cut_gap_next ':' text]
    · have uncut := cut_gap_plain text [] plain
      rw [List.append_nil] at uncut
      rw [uncut]
      rfl
    · intro behind same
      exact plain ((List.cons.inj same).2 ▸ List.mem_cons_self)
  rw [cut_gap_join parts pieces, single, Option.map_none]

theorem cut_gap_whole (chars before behind : List Char)
    (cut : cutGap? chars = some (before, behind)) : chars = before ++ ':' :: ':' :: behind := by
  induction chars generalizing before with
  | nil => cases cut
  | cons c rest ih =>
      by_cases gap : ∃ others, c :: rest = ':' :: ':' :: others
      · obtain ⟨others, same⟩ := gap
        cases same
        cases cut
        rfl
      · rw [cut_gap_next c rest fun others same => gap ⟨others, same⟩] at cut
        obtain ⟨⟨inner, _⟩, later, same⟩ := Option.map_eq_some_iff.mp cut
        cases same
        rw [ih inner later, List.cons_append]

theorem cut_gap_append (chars before behind rest : List Char)
    (cut : cutGap? chars = some (before, behind)) :
    cutGap? (chars ++ rest) = some (before, behind ++ rest) := by
  induction chars generalizing before with
  | nil => cases cut
  | cons c chars ih =>
      by_cases gap : ∃ others, c :: chars = ':' :: ':' :: others
      · obtain ⟨others, same⟩ := gap
        cases same
        cases cut
        rfl
      · rw [cut_gap_next c chars fun others same => gap ⟨others, same⟩] at cut
        obtain ⟨⟨inner, _⟩, later, same⟩ := Option.map_eq_some_iff.mp cut
        cases same
        have apart : ∀ others, c :: (chars ++ rest) ≠ ':' :: ':' :: others := by
          intro others same
          obtain ⟨rfl, parts⟩ := List.cons.inj same
          cases chars with
          | nil => cases later
          | cons d chars =>
              obtain ⟨rfl, _⟩ := List.cons.inj parts
              exact gap ⟨chars, rfl⟩
        rw [List.cons_append, cut_gap_next c _ apart, ih inner later]
        rfl

namespace V6

theorem join_pieces (groups : List UInt16) :
    Pieces (groups.map fun group => Nat.toDigits 16 group.toNat) :=
  groups_pieces false _ groups (groups_texts false groups)

theorem pieces_texts (groups : List UInt16) (present : groups ≠ []) :
    Text.pieces ':' (join groups) = groups.map fun group => Nat.toDigits 16 group.toNat :=
  Text.pieces_join ':' _ (by simpa using present) (join_pieces groups).plain

theorem side_texts (embedded : Bool) (groups : List UInt16) :
    side? embedded (join groups) = some groups := by
  cases groups with
  | nil => rfl
  | cons group rest =>
      have present := List.cons_ne_nil group rest
      have written : join (group :: rest) ≠ [] := by
        intro empty
        have pieces := pieces_texts (group :: rest) present
        rw [empty] at pieces
        exact Nat.toDigits_ne_nil (List.cons.inj pieces).1.symm
      rw [side?, if_neg written, pieces_texts _ present, groups_texts]

theorem of_groups (groups : List UInt16) (eight : groups.length = 8) :
    ofGroups? groups = some ⟨groups, eight⟩ := dif_pos eight

theorem longest_zeros (groups : List UInt16) :
    groups.take (longestZeros groups).1 ++ List.replicate (longestZeros groups).2 0 ++
      groups.drop ((longestZeros groups).1 + (longestZeros groups).2) = groups := by
  induction groups with
  | nil => rfl
  | cons group rest ih =>
      rcases run : longestZeros rest with ⟨start, length⟩
      simp only [run] at ih
      simp only [longestZeros, run]
      split
      · have zeros : (group :: rest).takeWhile (· = 0) =
            List.replicate ((group :: rest).takeWhile (· = 0)).length 0 :=
          List.eq_replicate_of_mem fun g member => by
            simpa using List.all_eq_true.mp List.all_takeWhile g member
        have whole := List.prefix_iff_eq_append.mp (List.takeWhile_prefix (l := group :: rest) (· = 0))
        rw [List.take_zero, List.nil_append, Nat.zero_add, ← zeros]
        exact whole
      · rw [Nat.add_right_comm]
        exact congrArg (group :: ·) ih

theorem parse_cut (chars before behind : List Char) (head tail : List UInt16)
    (cut : cutGap? chars = some (before, behind)) (first : side? false before = some head)
    (second : side? true behind = some tail) (room : head.length + tail.length ≤ 7) :
    parse? chars =
      ofGroups? (head ++ List.replicate (8 - head.length - tail.length) 0 ++ tail) := by
  rw [parse?, cut]
  simp [first, second, room]

theorem parse_mapped (high low : UInt16) :
    parse? ("::ffff:".toList ++ (V4.ofGroups high low).text) =
      some ⟨[0, 0, 0, 0, 0, 0xffff, high, low], rfl⟩ := by
  have address := V4.parse_text (V4.ofGroups high low)
  have ungrouped := V4.text_ungrouped (V4.ofGroups high low)
  have pieces : Text.pieces ':' ("ffff:".toList ++ (V4.ofGroups high low).text) =
      ["ffff".toList, (V4.ofGroups high low).text] := by
    have first := Text.pieces_first ':' "ffff".toList (V4.ofGroups high low).text (by decide)
    rw [Text.pieces_whole ':' _ (V4.text_plain _)] at first
    exact first
  have tail : side? true ("ffff:".toList ++ (V4.ofGroups high low).text) =
      some [0xffff, high, low] := by
    have marked : group? "ffff".toList = some 0xffff := by decide
    rw [side?, if_neg (by simp), pieces]
    simp only [groups?, marked, ungrouped, address, V4.groups_of, if_true, Option.map_some]
    rfl
  have cut : cutGap? ("::ffff:".toList ++ (V4.ofGroups high low).text) =
      some ([], "ffff:".toList ++ (V4.ofGroups high low).text) := rfl
  exact parse_cut _ _ _ [] _ cut rfl tail (by simp)

theorem parse_gapped (head tail : List UInt16) (zeros : Nat) (long : 1 ≤ zeros)
    (eight : (head ++ List.replicate zeros 0 ++ tail).length = 8) :
    parse? (join head ++ "::".toList ++ join tail) =
      some ⟨head ++ List.replicate zeros 0 ++ tail, eight⟩ := by
  have cut : cutGap? (join head ++ "::".toList ++ join tail) = some (join head, join tail) := by
    rw [List.append_assoc]
    refine (cut_gap_join _ (join_pieces head) _).trans ?_
    simp [cutGap?, join]
  have sized : head.length + (zeros + tail.length) = 8 := by simpa using eight
  have room : head.length + tail.length ≤ 7 := by omega
  have filled : 8 - head.length - tail.length = zeros := by omega
  rw [parse_cut _ _ _ head tail cut (side_texts false head) (side_texts true tail) room, filled,
    of_groups _ eight]

theorem parse_whole (groups : List UInt16) (eight : groups.length = 8) :
    parse? (join groups) = some ⟨groups, eight⟩ := by
  have present : groups ≠ [] := by
    rintro rfl
    cases eight
  have uncut : cutGap? (join groups) = none := by
    have cut := cut_gap_join _ (join_pieces groups) []
    rwa [List.append_nil] at cut
  rw [parse?, uncut]
  simp [pieces_texts groups present, groups_texts, ofGroups?, eight]

theorem parse_text (address : V6) : parse? address.text = some address := by
  obtain ⟨groups, eight⟩ := address
  simp only [text]
  split
  · next _ high low => exact parse_mapped high low
  · rcases run : longestZeros groups with ⟨start, length⟩
    have whole := longest_zeros groups
    simp only [run] at whole ⊢
    split
    · next long =>
        have parsed := parse_gapped (groups.take start) (groups.drop (start + length)) length
          (by omega) (by rw [whole, eight])
        simpa only [whole] using parsed
    · exact parse_whole groups eight

theorem side_chars (embedded : Bool) (chars : List Char) (groups : List UInt16)
    (read : side? embedded chars = some groups) :
    ∀ c ∈ chars, (Text.hexDigit? c).isSome ∨ c = '.' ∨ c = ':' := by
  intro c member
  rw [side?] at read
  split at read
  · next empty => simp [empty] at member
  · rw [← Text.join_pieces ':' chars] at member
    rcases Text.join_chars ':' _ c member with colon | ⟨part, among, inside⟩
    · exact .inr (.inr colon)
    · exact ((groups_chars embedded _ groups read part among).2 c inside).imp id .inl

-- How a text is read as an address: without a gap eight groups, else some before and some behind it.
theorem parse_cases (chars : List Char) (address : V6) (read : parse? chars = some address) :
    (cutGap? chars = none ∧ groups? true (Text.pieces ':' chars) = some address.groups) ∨
      ∃ before behind head tail, cutGap? chars = some (before, behind) ∧
        side? false before = some head ∧ side? true behind = some tail ∧
        head.length + tail.length ≤ 7 ∧
        address.groups = head ++ List.replicate (8 - head.length - tail.length) 0 ++ tail := by
  have whole (groups : List UInt16) (same : ofGroups? groups = some address) :
      address.groups = groups := by
    rw [ofGroups?] at same
    split at same
    · cases same
      rfl
    · cases same
  rw [parse?] at read
  split at read
  · next uncut =>
      obtain ⟨groups, listed, same⟩ := Option.bind_eq_some_iff.mp read
      exact .inl ⟨uncut, whole groups same ▸ listed⟩
  · next before behind cut =>
      obtain ⟨head, first, read⟩ := Option.bind_eq_some_iff.mp read
      obtain ⟨tail, second, read⟩ := Option.bind_eq_some_iff.mp read
      split at read
      · next room =>
          exact .inr ⟨before, behind, head, tail, cut, first, second, room, whole _ read⟩
      · cases read

theorem parse_chars (chars : List Char) (address : V6) (read : parse? chars = some address) :
    ∀ c ∈ chars, (Text.hexDigit? c).isSome ∨ c = '.' ∨ c = ':' := by
  rcases parse_cases chars address read with ⟨_, listed⟩ | ⟨before, behind, head, tail, cut, first, second, _⟩
  · have present : chars ≠ [] := by
      rintro rfl
      cases listed
    exact side_chars true chars address.groups (by rw [side?, if_neg present, listed])
  · intro c member
    rw [cut_gap_whole chars before behind cut] at member
    rcases List.mem_append.mp member with earlier | later
    · exact side_chars false before head first c earlier
    · simp only [List.mem_cons] at later
      rcases later with colon | colon | inside
      · exact .inr (.inr colon)
      · exact .inr (.inr colon)
      · exact side_chars true behind tail second c inside

theorem parse_colon (chars : List Char) (address : V6) (read : parse? chars = some address) :
    ':' ∈ chars := by
  rcases parse_cases chars address read with ⟨_, listed⟩ | ⟨before, behind, head, tail, cut, _⟩
  · -- A text in one piece has one group, or two from an IPv4 address.
    by_contra plain
    rw [Text.pieces_whole ':' chars plain, groups?] at listed
    have eight := address.eight
    split at listed
    · rw [← Option.some.inj listed] at eight
      cases eight
    · obtain ⟨inner, _, same⟩ := Option.map_eq_some_iff.mp listed
      rw [← same] at eight
      cases eight
  · rw [cut_gap_whole chars before behind cut]
    exact List.mem_append_right _ List.mem_cons_self

end V6

namespace Address

theorem v4_plain (chars : List Char) (address : V4) (read : V4.parse? chars = some address) :
    ':' ∉ chars :=
  V4.dotted_without ':' (by decide) (by decide) chars (V4.parse_chars chars address read)

theorem v6_unless (chars : List Char) (colon : ':' ∈ chars) :
    parse? chars = (V6.parse? chars).map .v6 := by
  rw [parse?]
  split
  · next address read => exact absurd colon (v4_plain chars address read)
  · rfl

theorem parse_v6_iff (chars : List Char) (address : V6) :
    parse? chars = some (.v6 address) ↔ V6.parse? chars = some address := by
  constructor
  · intro read
    rw [parse?] at read
    split at read
    · cases read
    · obtain ⟨_, found, same⟩ := Option.map_eq_some_iff.mp read
      cases same
      exact found
  · intro read
    rw [v6_unless chars (V6.parse_colon chars address read), read, Option.map_some]

theorem parse_text (address : Address) : parse? address.text = some address := by
  cases address with
  | v4 address =>
      rw [text, parse?, V4.parse_text]
  | v6 address => exact (parse_v6_iff _ address).mpr (V6.parse_text address)

end Address

end FieldConfig.Net
