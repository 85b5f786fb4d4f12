import FieldConfig.Net.Address
import Mathlib.Tactic.IntervalCases

set_option autoImplicit false

namespace FieldConfig

namespace Text

theorem hex_digit_char (n : Nat) (small : n < 16) : hexDigit? n.digitChar = some n := by
  interval_cases n <;> rfl

theorem hex_value_append (value : Nat) (chars rest : List Char) :
    hexValue? value (chars ++ rest) = (hexValue? value chars).bind (hexValue? · rest) := by
  induction chars generalizing value with
  | nil => rfl
  | cons c chars ih =>
      rw [List.cons_append, hexValue?, hexValue?]
      cases hexDigit? c with
      | none => rfl
      | some digit => exact ih _

theorem hex_value_digits (n : Nat) : hexValue? 0 (Nat.toDigits 16 n) = some n := by
  induction n using Nat.strongRecOn with
  | ind n ih =>
      rw [Nat.toDigits_eq_if (by decide)]
      split
      · next small => simp [hexValue?, hex_digit_char n small]
      · next large =>
          have digit := hex_digit_char (n % 16) (Nat.mod_lt n (by decide))
          rw [hex_value_append, ih (n / 16) (by omega), Option.bind_some, hexValue?, digit,
            Option.bind_some, hexValue?, Nat.div_add_mod']

theorem hex_value_chars (value result : Nat) (chars : List Char)
    (read : hexValue? value chars = some result) (c : Char) (member : c ∈ chars) :
    (hexDigit? c).isSome := by
  induction chars generalizing value with
  | nil => cases member
  | cons first rest ih =>
      rw [hexValue?] at read
      obtain ⟨digit, here, later⟩ := Option.bind_eq_some_iff.mp read
      rcases List.mem_cons.mp member with same | behind
      · rw [same, here]
        rfl
      · exact ih _ later behind

theorem hex_value_some (value : Nat) (chars : List Char)
    (digits : ∀ c ∈ chars, (hexDigit? c).isSome) : (hexValue? value chars).isSome := by
  induction chars generalizing value with
  | nil => rfl
  | cons c rest ih =>
      obtain ⟨here, later⟩ := List.forall_mem_cons.mp digits
      obtain ⟨digit, first⟩ := Option.isSome_iff_exists.mp here
      rw [hexValue?, first]
      exact ih _ later

theorem decimal_hex (c : Char) (digit : c.isDigit) : (hexDigit? c).isSome := by
  rw [hexDigit?, if_pos digit]
  rfl

theorem decimal_digits (n : Nat) : ∀ c ∈ Nat.toDigits 10 n, c.isDigit := fun _ member =>
  Nat.isDigit_of_mem_toDigits (by decide) (by decide) member

theorem decimal_without (mark : Char) (other : ¬ mark.isDigit) (n : Nat) :
    mark ∉ Nat.toDigits 10 n := fun member => other (decimal_digits n mark member)

theorem digits_leading (n : Nat) (positive : 0 < n) : (Nat.toDigits 10 n).head? ≠ some '0' := by
  induction n using Nat.strongRecOn with
  | ind n ih =>
      rw [Nat.toDigits_eq_if (by decide)]
      split
      · next small => interval_cases n <;> decide
      · next large =>
          obtain ⟨first, rest, digits⟩ := List.exists_cons_of_ne_nil
            (Nat.toDigits_ne_nil (n := n / 10) (b := 10))
          have earlier := ih (n / 10) (by omega) (by omega)
          rw [digits] at earlier ⊢
          exact earlier

end Text

namespace Net

theorem octet_read (octet : UInt8) : octet? (Nat.toDigits 10 octet.toNat) = some octet := by
  have bound : octet.toNat < 256 := octet.toNat_lt
  have short : (Nat.toDigits 10 octet.toNat).length ≤ 3 :=
    (Nat.length_toDigits_le_iff (by decide) (by decide)).mpr (by omega)
  have digits : (Nat.toDigits 10 octet.toNat).all Char.isDigit = true :=
    List.all_eq_true.mpr (Text.decimal_digits octet.toNat)
  have leading : (Nat.toDigits 10 octet.toNat).length = 1 ∨
      (Nat.toDigits 10 octet.toNat).head? ≠ some '0' := by
    by_cases zero : octet.toNat = 0
    · exact .inl (by rw [zero]; rfl)
    · exact .inr (Text.digits_leading _ (by omega))
  rw [octet?, Nat.ofDigitChars_ten_toDigits,
    if_pos ⟨Nat.toDigits_ne_nil, short, digits, leading, bound⟩, UInt8.ofNat_toNat]

theorem group_read (group : UInt16) : group? (Nat.toDigits 16 group.toNat) = some group := by
  have bound : group.toNat < 65536 := group.toNat_lt
  have short : (Nat.toDigits 16 group.toNat).length ≤ 4 :=
    (Nat.length_toDigits_le_iff (by decide) (by decide)).mpr (by omega)
  rw [group?, if_pos ⟨Nat.toDigits_ne_nil, short⟩, Text.hex_value_digits, Option.map_some,
    UInt16.ofNat_toNat]

theorem group_chars (chars : List Char) (group : UInt16) (read : group? chars = some group) :
    chars ≠ [] ∧ ∀ c ∈ chars, (Text.hexDigit? c).isSome := by
  rw [group?] at read
  split at read
  · next fits =>
      obtain ⟨value, digits, _⟩ := Option.map_eq_some_iff.mp read
      exact ⟨fits.1, Text.hex_value_chars 0 value chars digits⟩
  · cases read

theorem octet_chars (chars : List Char) (octet : UInt8) (read : octet? chars = some octet) :
    ∀ c ∈ chars, c.isDigit := by
  rw [octet?] at read
  split at read
  · next fits => exact List.all_eq_true.mp fits.2.2.1
  · cases read

end Net
end FieldConfig
