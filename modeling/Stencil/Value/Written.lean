import Stencil.Decimal.Layout
import Stencil.Value.Basic

set_option autoImplicit false

namespace Stencil

def Number.write : Number → String
  | .int value => toString value
  | .float value => value.write

def writeBool (value : Bool) : String := if value then "true" else "false"

def twoHexDigits (n : Nat) : List Char := [Nat.digitChar (n / 16), Nat.digitChar (n % 16)]

/-- How a character stands in a quoted text of the compact notation. -/
def compactChar (c : Char) : List Char :=
  if c = '\x22' then ['\\', '\x22']
  else if c = '\\' then ['\\', '\\']
  else if c = '\x08' then ['\\', 'b']
  else if c = '\t' then ['\\', 't']
  else if c = '\n' then ['\\', 'n']
  else if c = '\x0c' then ['\\', 'f']
  else if c = '\r' then ['\\', 'r']
  else if c.toNat < 0x20 then ['\\', 'u', '0', '0'] ++ twoHexDigits c.toNat
  else [c]

def compactText (text : String) : String :=
  String.ofList ('\x22' :: text.toList.flatMap compactChar ++ ['\x22'])

namespace Value

mutual

/-- A value in the compact notation, which has no space between its parts. -/
def compact : Value → String
  | null => "null"
  | bool value => writeBool value
  | number value => value.write
  | string text => compactText text
  | array items => "[" ++ String.intercalate "," (compactItems items) ++ "]"
  | object ⟨entries⟩ => "\x7b" ++ String.intercalate "," (compactEntries entries) ++ "\x7d"

def compactItems : List Value → List String
  | [] => []
  | item :: rest => compact item :: compactItems rest

/-- The entries in the compact notation, each behind its name. -/
def compactEntries {below : Option String} : Entries Value below → List String
  | .nil => []
  | .cons name _ value rest =>
    (compactText name ++ ":" ++ compact value) :: compactEntries rest

end

/-- A text with a value written behind it. -/
def writeTo (out : String) : Value → String
  | null => out
  | bool value => out ++ writeBool value
  | number value => out ++ value.write
  | string text => out ++ text
  | array items => out ++ compact (array items)
  | object fields => out ++ compact (object fields)

def output : Value → String
  | string text => text
  | value => value.writeTo ""

/-- To write a value is to put its text behind what is there. -/
theorem writeTo_eq (value : Value) (out : String) : value.writeTo out = out ++ value.output := by
  cases value <;> simp [writeTo, output]

end Value

end Stencil
