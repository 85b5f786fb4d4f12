import FieldConfig.Text.Hex
import FieldConfig.Text.Split

set_option autoImplicit false

/-!
IP addresses and their one written form: IPv4 with four decimal numbers, IPv6 in lower case with
its first longest run of zero groups left out, and an embedded IPv4 address written as such.
-/
namespace FieldConfig.Net

structure V4 where
  first : UInt8
  second : UInt8
  third : UInt8
  fourth : UInt8
deriving DecidableEq, Repr

structure V6 where
  groups : List UInt16
  eight : groups.length = 8
deriving DecidableEq, Repr

def octet? (chars : List Char) : Option UInt8 :=
  if chars ≠ [] ∧ chars.length ≤ 3 ∧ chars.all Char.isDigit ∧
      (chars.length = 1 ∨ chars.head? ≠ some '0') ∧ Nat.ofDigitChars 10 chars 0 < 256 then
    some (UInt8.ofNat (Nat.ofDigitChars 10 chars 0))
  else none

namespace V4

def parse? (chars : List Char) : Option V4 :=
  match Text.pieces '.' chars with
  | [a, b, c, d] => do return ⟨← octet? a, ← octet? b, ← octet? c, ← octet? d⟩
  | _ => none

def text (address : V4) : List Char :=
  Text.join '.'
    [Nat.toDigits 10 address.first.toNat, Nat.toDigits 10 address.second.toNat,
     Nat.toDigits 10 address.third.toNat, Nat.toDigits 10 address.fourth.toNat]

def groups (address : V4) : List UInt16 :=
  [UInt16.ofNat (address.first.toNat * 256 + address.second.toNat),
   UInt16.ofNat (address.third.toNat * 256 + address.fourth.toNat)]

def ofGroups (high low : UInt16) : V4 :=
  ⟨UInt8.ofNat (high.toNat / 256), UInt8.ofNat (high.toNat % 256),
   UInt8.ofNat (low.toNat / 256), UInt8.ofNat (low.toNat % 256)⟩

end V4

def group? (chars : List Char) : Option UInt16 :=
  if chars ≠ [] ∧ chars.length ≤ 4 then (Text.hexValue? 0 chars).map UInt16.ofNat else none

-- The groups of some pieces; the last one may be an IPv4 address where `embedded` allows it.
def groups? (embedded : Bool) : List (List Char) → Option (List UInt16)
  | [] => some []
  | [piece] =>
    match group? piece with
    | some group => some [group]
    | none => if embedded then (V4.parse? piece).map V4.groups else none
  | piece :: rest => do return (← group? piece) :: (← groups? embedded rest)

def side? (embedded : Bool) (chars : List Char) : Option (List UInt16) :=
  if chars = [] then some [] else groups? embedded (Text.pieces ':' chars)

def cutGap? : List Char → Option (List Char × List Char)
  | ':' :: ':' :: rest => some ([], rest)
  | c :: rest => (cutGap? rest).map fun (before, behind) => (c :: before, behind)
  | [] => none

namespace V6

def ofGroups? (groups : List UInt16) : Option V6 :=
  if eight : groups.length = 8 then some ⟨groups, eight⟩ else none

-- A gap stands for at least one group of zeros.
def parse? (chars : List Char) : Option V6 :=
  match cutGap? chars with
  | none => (groups? true (Text.pieces ':' chars)).bind ofGroups?
  | some (before, behind) => do
    let head ← side? false before
    let tail ← side? true behind
    if head.length + tail.length ≤ 7 then
      ofGroups? (head ++ List.replicate (8 - head.length - tail.length) 0 ++ tail)
    else none

def longestZeros : List UInt16 → Nat × Nat
  | [] => (0, 0)
  | group :: rest =>
    let here := ((group :: rest).takeWhile (· = 0)).length
    let (start, length) := longestZeros rest
    if length ≤ here then (0, here) else (start + 1, length)

def join (groups : List UInt16) : List Char :=
  Text.join ':' (groups.map fun group => Nat.toDigits 16 group.toNat)

def text (address : V6) : List Char :=
  match address.groups with
  | [0, 0, 0, 0, 0, 0xffff, high, low] => "::ffff:".toList ++ (V4.ofGroups high low).text
  | groups =>
    let (start, length) := longestZeros groups
    if 1 < length then
      join (groups.take start) ++ "::".toList ++ join (groups.drop (start + length))
    else join groups

end V6

inductive Address where
  | v4 (address : V4)
  | v6 (address : V6)
deriving DecidableEq, Repr

namespace Address

def parse? (chars : List Char) : Option Address :=
  match V4.parse? chars with
  | some address => some (.v4 address)
  | none => (V6.parse? chars).map .v6

def text : Address → List Char
  | .v4 address => address.text
  | .v6 address => address.text

end Address
end FieldConfig.Net
