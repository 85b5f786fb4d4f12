import FieldConfig.Number.Double

set_option autoImplicit false

/-!
The decimal text of a double: the fewest digits that read back as the same double, and of those
the nearest to its value.
-/
namespace FieldConfig

structure Decimal where
  digits : Nat
  exponent : Int
deriving DecidableEq, Repr

namespace Decimal

def magnitude (d : Decimal) : Int := d.exponent + (Nat.toDigits 10 d.digits).length - 1

def positional (d : Decimal) : List Char × List Char :=
  let digits := Nat.toDigits 10 d.digits
  if 0 ≤ d.exponent then (digits ++ List.replicate d.exponent.toNat '0', [])
  else
    let places := (-d.exponent).toNat
    let padded := List.replicate (places + 1 - digits.length) '0' ++ digits
    (padded.take (padded.length - places), padded.drop (padded.length - places))

end Decimal

namespace Double

-- The doubles nearest to `x` leave it the reals between `low` and `high`, in units of
-- `2 ^ (scale - 2)`; the ends belong to it when its significand is even.
structure Neighbourhood where
  low : Nat
  value : Nat
  high : Nat
  closed : Bool

def neighbourhood (x : Double) : Neighbourhood :=
  let m := x.significand
  let gap := if m = leadingBit ∧ 1 < x.biased then 1 else 2
  ⟨4 * m - gap, 4 * m, 4 * m + 2, m % 2 = 0⟩

def onGrid? (x : Double) (grid : Int) : Option Nat :=
  let near := x.neighbourhood
  let q := x.scale - 2
  let unit := Nat.pow 10 grid.toNat * Nat.pow 2 (-q).toNat
  let step := Nat.pow 2 q.toNat * Nat.pow 10 (-grid).toNat
  let inside (n : Nat) : Bool :=
    if near.closed then near.low * step ≤ n * unit && n * unit ≤ near.high * step
    else near.low * step < n * unit && n * unit < near.high * step
  let floor := near.value * step / unit
  let rest := near.value * step % unit
  let upper := unit < 2 * rest || (unit = 2 * rest && floor % 2 = 1)
  match inside floor, inside (floor + 1) with
  | true, true => some (if upper then floor + 1 else floor)
  | true, false => some floor
  | false, true => some (floor + 1)
  | false, false => none

def shortestFrom (x : Double) : Nat → Int → Decimal
  | 0, grid => ⟨0, grid⟩
  | steps + 1, grid =>
    match x.onGrid? grid with
    | some digits => ⟨digits, grid⟩
    | none => shortestFrom x steps (grid - 1)

def shortest (x : Double) : Decimal :=
  if x.significand = 0 then ⟨0, 0⟩ else shortestFrom x 640 309

-- How a number is written: with an exponent unless its leading digit has one of the
-- `positional` exponents, and with a fraction or without when it is whole.
structure Layout where
  positional : Int → Bool
  wholeFraction : Bool

def Layout.write (layout : Layout) (x : Double) : List Char :=
  let decimal := x.shortest
  let sign := if x.isNegative then ['-'] else []
  if layout.positional decimal.magnitude then
    match decimal.positional with
    | (whole, []) => sign ++ whole ++ (if layout.wholeFraction then ['.', '0'] else [])
    | (whole, part) => sign ++ whole ++ '.' :: part
  else
    let mantissa :=
      match Nat.toDigits 10 decimal.digits with
      | first :: second :: rest => first :: '.' :: second :: rest
      | digits => digits
    let power := decimal.magnitude
    let mark := if power < 0 then ['e', '-'] else ['e', '+']
    sign ++ mantissa ++ mark ++ Nat.toDigits 10 power.natAbs

end Double
end FieldConfig
