set_option autoImplicit false

namespace FieldConfig.Text

def hexDigit? (c : Char) : Option Nat :=
  if c.isDigit then some (c.toNat - '0'.toNat)
  else if 'a' ≤ c ∧ c ≤ 'f' then some (c.toNat - 'a'.toNat + 10)
  else if 'A' ≤ c ∧ c ≤ 'F' then some (c.toNat - 'A'.toNat + 10)
  else none

def hexValue? (value : Nat) : List Char → Option Nat
  | [] => some value
  | c :: rest => (hexDigit? c).bind fun digit => hexValue? (value * 16 + digit) rest

end FieldConfig.Text
