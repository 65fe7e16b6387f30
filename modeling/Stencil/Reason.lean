set_option autoImplicit false

/-
Reasons: what is said of data that does not convert. A reason may end in the place in a text that
it is about, as in `bad name at line 3 column 7`. Lines count from one, so line 0 is nowhere, and
such a place is left out when the reason is repeated.
-/

namespace Stencil

structure Place where
  line : Nat
  column : Nat
  deriving DecidableEq, Repr

namespace Place

/-- The greatest number that a line or a column can have. -/
def greatest : Nat := 18446744073709551615

def lineWord : List Char := " at line ".toList

def columnWord : List Char := " column ".toList

/-- A number of a line or a column from its digits; zeros may stand before it. -/
def number? (digits : List Char) : Option Nat :=
  let value := Nat.ofDigitChars 10 digits 0
  if digits.isEmpty || !digits.all Char.isDigit || greatest < value then none else some value

/-- The text behind a word that it begins with. -/
def behind? (word cs : List Char) : Option (List Char) :=
  if word.isPrefixOf cs then some (cs.drop word.length) else none

/-- Reads a text that is a place and nothing else. -/
def ofChars? (cs : List Char) : Option Place := do
  let rest ← behind? lineWord cs
  let line ← number? (rest.takeWhile Char.isDigit)
  let rest ← behind? columnWord (rest.dropWhile Char.isDigit)
  let column ← number? rest
  return ⟨line, column⟩

/-- The words for a place, and none for a place that is nowhere. -/
def toChars (place : Place) : List Char :=
  if place.line = 0 then []
  else lineWord ++ Nat.toDigits 10 place.line ++ columnWord ++ Nat.toDigits 10 place.column

end Place

/-- A reason, with the place that it is about if it names one. -/
structure Reason where
  chars : List Char
  place : Option Place

namespace Reason

/-- Reads a reason: what it says, and the place at its end. -/
def ofChars : List Char → Reason
  | [] => ⟨[], none⟩
  | c :: rest =>
    match Place.ofChars? (c :: rest) with
    | some place => ⟨[], some place⟩
    | none =>
      let tail := ofChars rest
      ⟨c :: tail.chars, tail.place⟩

def message (reason : Reason) : String :=
  String.ofList (reason.chars ++ (reason.place.map Place.toChars).getD [])

end Reason

end Stencil
