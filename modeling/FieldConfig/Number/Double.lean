set_option autoImplicit false

/-!
Binary floating-point numbers of 64 bits, held as their bit pattern so that they compare and
compute inside the logic.
-/
namespace FieldConfig

structure Double where
  bits : UInt64
deriving DecidableEq, Repr

namespace Double

def ofBits (bits : Nat) : Double := ⟨UInt64.ofNat bits⟩

def signBit : Nat := 0x8000000000000000

def leadingBit : Nat := 0x10000000000000

def infinite (negative : Bool) : Double :=
  ofBits ((if negative then signBit else 0) + 2047 * leadingBit)

def notANumber : Double := ofBits 0x7ff8000000000000

def isNegative (x : Double) : Bool := signBit ≤ x.bits.toNat

def biased (x : Double) : Nat := x.bits.toNat / leadingBit % 2048

def fraction (x : Double) : Nat := x.bits.toNat % leadingBit

def isFinite (x : Double) : Bool := x.biased ≠ 2047

def isNaN (x : Double) : Bool := x.biased = 2047 && x.fraction ≠ 0

-- The size of a finite number is `significand * 2 ^ scale`.
def significand (x : Double) : Nat :=
  if x.biased = 0 then x.fraction else leadingBit + x.fraction

def scale (x : Double) : Int := if x.biased = 0 then -1074 else (x.biased : Int) - 1075

-- The quotient rounded to the nearest whole number, a half to the even one.
def roundDiv (numerator denominator : Nat) : Nat :=
  let quotient := numerator / denominator
  let twice := 2 * (numerator % denominator)
  if twice < denominator then quotient
  else if denominator < twice then quotient + 1
  else quotient + quotient % 2

def ofRatio (negative : Bool) (numerator denominator : Nat) : Double :=
  let sign := if negative then signBit else 0
  if numerator = 0 then ofBits sign
  else
    let estimate : Int := (numerator.log2 : Int) - (denominator.log2 : Int) - 53
    let at' (q : Int) : Nat :=
      roundDiv (numerator * Nat.pow 2 (-q).toNat) (denominator * Nat.pow 2 q.toNat)
    let q := max (-1074) estimate
    let q := if 2 * leadingBit ≤ at' q then q + 1 else q
    let magnitude := (q + 1074).toNat * leadingBit + at' q
    if 2047 * leadingBit ≤ magnitude then infinite negative else ofBits (sign + magnitude)

-- The double nearest to `digits * 10 ^ exponent`. Exponents far outside the range of doubles
-- need no exact power.
def ofDecimal (negative : Bool) (digits : Nat) (exponent : Int) : Double :=
  if digits = 0 then ofRatio negative 0 1
  else
    let size := (digits.log2 : Int) * 3 / 10 + exponent
    if 400 < size then infinite negative
    else if size < -800 then ofRatio negative 0 1
    else
      ofRatio negative (digits * Nat.pow 10 exponent.toNat) (Nat.pow 10 (-exponent).toNat)

def ofInt (n : Int) : Double := ofRatio (n < 0) n.natAbs 1

-- The value as a multiple of the smallest positive double; infinities lie beyond all others.
def rank (x : Double) : Int :=
  let size : Int := (x.bits.toNat % signBit : Nat)
  if x.isNegative then -size else size

def below (x y : Double) : Bool := !x.isNaN && !y.isNaN && decide (x.rank < y.rank)

def clip (limit : Nat) (x : Double) : Nat :=
  if x.isNaN || x.isNegative then 0
  else if !x.isFinite then limit
  else min limit (x.significand * Nat.pow 2 x.scale.toNat / Nat.pow 2 (-x.scale).toNat)

end Double
end FieldConfig
