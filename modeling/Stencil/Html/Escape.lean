set_option autoImplicit false

/-
Escaping for markup. Six characters are written as entities and all others as they are:
`escapeChars` says so character by character. `escape` is what runs: one pass over the bytes of
the text that copies the stretches between the escaped bytes as they are. The escaped characters
are ASCII, so a byte that looks like one is one, and each stretch begins and ends between two
characters.
-/

namespace Stencil.Html

/-- The entity a character is written as, for the six that need one. -/
def entity? : Char → Option String
  | '<' => some "&lt;"
  | '>' => some "&gt;"
  | '&' => some "&amp;"
  | '\x22' => some "&quot;"
  | '\x27' => some "&#x27;"
  | '/' => some "&#x2f;"
  | _ => none

/-- The six entities with the characters they stand for. -/
def entities : List (String × Char) := [
  ("&lt;", '<'), ("&gt;", '>'), ("&amp;", '&'), ("&quot;", '\x22'), ("&#x27;", '\x27'),
  ("&#x2f;", '/')]

def escapeChar (c : Char) : List Char :=
  match entity? c with
  | some entity => entity.toList
  | none => [c]

def escapeChars (cs : List Char) : List Char := cs.flatMap escapeChar

/-- A part of the written text: bytes of the source from `start` up to but not including `stop`,
or an entity. -/
inductive Part where
  | copy (start stop : Nat)
  | entity (text : String)
  deriving Repr, DecidableEq

/-- The stretch from `start` to `stop`, left out when it is empty. -/
def stretch (start stop : Nat) : List Part := if start < stop then [.copy start stop] else []

/-- The entity of a byte, which has one exactly when it is the byte of an escaped character. -/
def byteEntity? (byte : UInt8) : Option String := entity? (Char.ofNat byte.toNat)

/-- The parts from byte `index` on, when everything before `start` is written. -/
def partsFrom (start index : Nat) : List UInt8 → List Part
  | [] => stretch start index
  | byte :: rest =>
    match byteEntity? byte with
    | some entity => stretch start index ++ .entity entity :: partsFrom (index + 1) (index + 1) rest
    | none => partsFrom start (index + 1) rest

def parts (source : ByteArray) : List Part := partsFrom 0 0 source.data.toList

def Part.bytes (source : ByteArray) : Part → ByteArray
  | .copy start stop => source.extract start stop
  | .entity text => text.toUTF8

def escapeBytes (source : ByteArray) : ByteArray :=
  (parts source).foldl (fun written part => written ++ part.bytes source) ByteArray.empty

/-- A text with its six special characters written as entities. -/
def escape (text : String) : String := (String.fromUTF8? (escapeBytes text.toUTF8)).getD ""

/-- The entity a text begins with, if it begins with one. -/
def entityAhead? (cs : List Char) : Option (String × Char) :=
  entities.find? fun entity => entity.1.toList.isPrefixOf cs

/-- The characters that a text was escaped from. The first `skip` characters belong to an entity
that was read already. -/
def unescapeFrom (skip : Nat) : List Char → List Char
  | [] => []
  | c :: rest =>
    match skip with
    | skip + 1 => unescapeFrom skip rest
    | 0 =>
      match entityAhead? (c :: rest) with
      | some entity => entity.2 :: unescapeFrom (entity.1.length - 1) rest
      | none => c :: unescapeFrom 0 rest

/-- Reads each entity, from left to right, as the character it stands for. -/
def unescape (cs : List Char) : List Char := unescapeFrom 0 cs

end Stencil.Html
