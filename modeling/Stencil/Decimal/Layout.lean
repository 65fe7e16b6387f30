import Stencil.Decimal.Shortest

set_option autoImplicit false

namespace Stencil.Decimal

structure Layout where
  /-- The smallest exponent of the first digit that is written in plain notation. -/
  least : Int
  /-- The largest. -/
  greatest : Int
  /-- What stands before the exponent. -/
  mark : Char
  /-- Whether a positive exponent has a sign. -/
  plusSign : Bool

/-- The layout of numbers in values and in output. -/
def Layout.standard : Layout := ⟨-5, 15, 'e', true⟩

/-- The plain notation of digits whose first stands for `10 ^ exponent`. -/
def plain (digits : List Char) (exponent : Int) : List Char :=
  if exponent < 0 then
    ['0', '.'] ++ List.replicate (-exponent - 1).toNat '0' ++ digits
  else
    let whole := exponent.toNat + 1
    let padded := digits ++ List.replicate (whole - digits.length) '0'
    let fraction := padded.drop whole
    padded.take whole ++ ['.'] ++ (if fraction.isEmpty then ['0'] else fraction)

/-- The notation with an exponent: one digit before the point, and no point without a second. -/
def scientific (layout : Layout) (digits : List Char) (exponent : Int) : List Char :=
  let sign := if exponent < 0 then ['-'] else if layout.plusSign then ['+'] else []
  digits.take 1 ++ (if digits.length > 1 then '.' :: digits.drop 1 else []) ++
    [layout.mark] ++ sign ++ Nat.toDigits 10 exponent.natAbs

def Digits.write (layout : Layout) (d : Digits) : List Char :=
  let digits := Nat.toDigits 10 d.digits
  let exponent : Int := d.scale + digits.length - 1
  if layout.least ≤ exponent ∧ exponent ≤ layout.greatest then plain digits exponent
  else scientific layout digits exponent

def Binary64.write (x : Binary64) : String :=
  let magnitude := if x.isZero then ['0', '.', '0'] else (shortest x).write .standard
  String.ofList (if x.isNegative then '-' :: magnitude else magnitude)

end Stencil.Decimal
