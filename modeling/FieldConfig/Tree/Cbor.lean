import FieldConfig.Tree

set_option autoImplicit false

/-!
Trees as CBOR: every item has the shortest head for its length or value, lengths are always given,
and a floating-point number takes the fewest bytes that hold its value.
-/
namespace FieldConfig

namespace Double

-- The bits of the same value in a smaller format, if it has them: `places` fraction bits and
-- exponents up to `limit`.
def narrow? (places limit : Nat) (x : Double) : Option Nat :=
  let width := (limit + 1).log2 + 1
  let sign := if x.isNegative then Nat.pow 2 (width + places) else 0
  if !x.isFinite then
    if x.fraction = 0 then some (sign + (Nat.pow 2 width - 1) * Nat.pow 2 places) else none
  else if x.significand = 0 then some sign
  else
    if 1023 < x.biased + limit ∧ x.biased ≤ 1023 + limit then
      let dropped := Nat.pow 2 (52 - places)
      let power := x.biased + limit - 1023
      if x.fraction % dropped = 0 then
        some (sign + power * Nat.pow 2 places + x.fraction / dropped)
      else none
    else if 1023 + limit < x.biased then none
    else
      let shift := (1 - (limit : Int) - places) - x.scale
      let dropped := Nat.pow 2 shift.toNat
      if x.significand % dropped = 0 ∧ x.significand / dropped < Nat.pow 2 places then
        some (sign + x.significand / dropped)
      else none

end Double

namespace Tree

def bigEndian : Nat → Nat → List UInt8
  | 0, _ => []
  | count + 1, n => bigEndian count (n / 256) ++ [UInt8.ofNat n]

def cborHead (major : Nat) (n : Nat) : List UInt8 :=
  let first (low : Nat) : UInt8 := UInt8.ofNat (major * 32 + low)
  if n < 24 then [first n]
  else if n < 0x100 then first 24 :: bigEndian 1 n
  else if n < 0x10000 then first 25 :: bigEndian 2 n
  else if n < 0x100000000 then first 26 :: bigEndian 4 n
  else first 27 :: bigEndian 8 n

def cborText (text : String) : List UInt8 :=
  let bytes := text.toUTF8.toList
  cborHead 3 bytes.length ++ bytes

def cborReal (x : Double) : List UInt8 :=
  match x.narrow? 10 15, x.narrow? 23 127 with
  | some bits, _ => 0xf9 :: bigEndian 2 bits
  | none, some bits => 0xfa :: bigEndian 4 bits
  | none, none => 0xfb :: bigEndian 8 x.bits.toNat

mutual
def cbor : Tree → List UInt8
  | .null => [0xf6]
  | .boolean false => [0xf4]
  | .boolean true => [0xf5]
  | .integer value =>
    if value < 0 then cborHead 1 (value.natAbs - 1) else cborHead 0 value.natAbs
  | .real value => cborReal value
  | .text value => cborText value
  | .array items => cborHead 4 items.length ++ cborItems items
  | .object members => cborHead 5 members.length ++ cborMembers members

def cborItems : List Tree → List UInt8
  | [] => []
  | item :: rest => item.cbor ++ cborItems rest

def cborMembers : List (String × Tree) → List UInt8
  | [] => []
  | (key, value) :: rest => cborText key ++ value.cbor ++ cborMembers rest
end

end Tree
end FieldConfig
