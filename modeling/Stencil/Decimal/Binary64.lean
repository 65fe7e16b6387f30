set_option autoImplicit false

namespace Stencil.Decimal

def twoTo (n : Nat) : Nat := Nat.pow 2 n

def tenTo (n : Nat) : Nat := Nat.pow 10 n

/-- A number by its bits. -/
structure Binary64 where
  bits : UInt64
  deriving DecidableEq, Repr

namespace Binary64

/-- Whether the sign is set, as it also is in the negative zero. -/
def isNegative (x : Binary64) : Bool := x.bits.toNat ≥ twoTo 63

def exponentBits (x : Binary64) : Nat := x.bits.toNat / twoTo 52 % twoTo 11

def fractionBits (x : Binary64) : Nat := x.bits.toNat % twoTo 52

/-- The significand: the fraction, with the leading bit that is not stored. -/
def significand (x : Binary64) : Nat :=
  if x.exponentBits = 0 then x.fractionBits else twoTo 52 + x.fractionBits

/-- The power of two that the significand counts. -/
def exponent (x : Binary64) : Int :=
  if x.exponentBits = 0 then -1074 else (x.exponentBits : Int) - 1075

def isZero (x : Binary64) : Bool := x.significand == 0

/-- Whether the number below is only half as far away as the number above: so it is at the powers
of two, where the exponent changes. -/
def isNarrowBelow (x : Binary64) : Bool := x.fractionBits == 0 && x.exponentBits > 1

/-- Two finite numbers are equal when their bits are, or when both are zero. -/
def equals (x y : Binary64) : Bool := x == y || (x.isZero && y.isZero)

/-- The quotient rounded to the nearest integer, a half to the even one. -/
def roundDiv (num den : Nat) : Nat :=
  let quotient := num / den
  let twice := 2 * (num % den)
  if twice < den || (twice == den && quotient % 2 == 0) then quotient else quotient + 1

/-- The bits of the positive number nearest to `num / den`. -/
def nearestBits (num den : Nat) : Nat :=
  let guess : Int := (num.log2 : Int) - (den.log2 : Int) - 52
  let count (exponent : Int) : Nat :=
    roundDiv (num * twoTo (-exponent).toNat) (den * twoTo exponent.toNat)
  let fine := max (-1074) (guess - 1)
  let exponent := if count fine < twoTo 53 then fine else max (-1074) guess
  (exponent + 1074).toNat * twoTo 52 + count exponent

/-- The bits of positive infinity, which are above those of every finite number. -/
def infinityBits : Nat := 0x7ff * twoTo 52

/-- The number nearest to `digits · 10 ^ scale`. What is beyond the largest number is infinite, and
what is far below the smallest is zero. -/
def ofDecimal (negative : Bool) (digits : Nat) (scale : Int) : Binary64 :=
  let size : Int := (Nat.toDigits 10 digits).length + scale
  let magnitude : Nat :=
    if digits = 0 ∨ size < -400 then 0
    else if 400 < size then infinityBits
    else min infinityBits (nearestBits (digits * tenTo scale.toNat) (tenTo (-scale).toNat))
  ⟨UInt64.ofNat (if negative then twoTo 63 + magnitude else magnitude)⟩

end Binary64

end Stencil.Decimal
