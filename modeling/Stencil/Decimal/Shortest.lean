import Stencil.Decimal.Binary64

set_option autoImplicit false

/-
The shortest decimal of a binary number: the one with the fewest digits among those that are read
back as the number, and of those the nearest. It is found on one decimal grid after the other, with
one digit, with two, and so on up to seventeen, which always suffice.
-/

namespace Stencil.Decimal

/-- A positive decimal: `digits · 10 ^ scale`. -/
structure Digits where
  digits : Nat
  scale : Int
  deriving DecidableEq, Repr

/-- A positive number as a fraction with the numbers that are read back as it: all between
`num - below` and `num + above` over `den`, the ends included when `closed` says so. -/
structure Interval where
  num : Nat
  den : Nat
  below : Nat
  above : Nat
  closed : Bool
  deriving Repr

/-- The numbers that are read back as a positive number reach half way to its neighbours. The
fraction counts quarters of the significand's unit, so that half a unit, and half of that where the
number below is nearer, are whole. The ends belong to the number with the even significand. -/
def Interval.around (x : Binary64) : Interval where
  num := 4 * x.significand * twoTo x.exponent.toNat
  den := 4 * twoTo (-x.exponent).toNat
  below := (if x.isNarrowBelow then 1 else 2) * twoTo x.exponent.toNat
  above := 2 * twoTo x.exponent.toNat
  closed := x.significand % 2 == 0

/-- Whether `point · 10 ^ scale` lies in the interval. -/
def Interval.holds (i : Interval) (point : Nat) (scale : Int) : Bool :=
  let scaled := point * tenTo scale.toNat * i.den
  let unit := tenTo (-scale).toNat
  if i.closed then (i.num - i.below) * unit ≤ scaled && scaled ≤ (i.num + i.above) * unit
  else (i.num - i.below) * unit < scaled && scaled < (i.num + i.above) * unit

/-- The grid points next to the interval's number on the grid of step `10 ^ scale`: the point at
or below it, and whether the point above is nearer, a tie going to the even point. -/
def Interval.pointBelow (i : Interval) (scale : Int) : Nat × Bool :=
  let num := i.num * tenTo (-scale).toNat
  let den := i.den * tenTo scale.toNat
  let point := num / den
  let twice := 2 * (num % den)
  (point, den < twice || (twice == den && point % 2 == 1))

/-- The nearest of the two grid points next to the number that lie in the interval. -/
def Interval.onGrid (i : Interval) (scale : Int) : Option Nat :=
  let (point, upward) := i.pointBelow scale
  match i.holds point scale, i.holds (point + 1) scale with
  | true, true => some (if upward then point + 1 else point)
  | true, false => some point
  | false, true => some (point + 1)
  | false, false => none

/-- The first hit among `fuel` grids, each ten times finer than the one before. -/
def Interval.search (i : Interval) (scale : Int) : Nat → Digits
  | 0 => ⟨(i.pointBelow scale).1, scale⟩
  | fuel + 1 =>
    match i.onGrid scale with
    | some point => ⟨point, scale⟩
    | none => i.search (scale - 1) fuel

/-- The exponent of ten of a positive fraction's first digit. -/
def magnitude (num den : Nat) : Int :=
  if den ≤ num then ((Nat.toDigits 10 (num / den)).length : Int) - 1
  else -((Nat.toDigits 10 ((den - 1) / num)).length : Int)

/-- The digits without the zeros at their end. -/
def Digits.trimZeros (d : Digits) : Nat → Digits
  | 0 => d
  | fuel + 1 =>
    if d.digits ≠ 0 ∧ d.digits % 10 = 0 then
      Digits.trimZeros ⟨d.digits / 10, d.scale + 1⟩ fuel
    else d

/-- The shortest decimal that is read back as the positive number `x`. -/
def shortest (x : Binary64) : Digits :=
  let interval := Interval.around x
  (interval.search (magnitude interval.num interval.den + 1) 18).trimZeros 18

end Stencil.Decimal
