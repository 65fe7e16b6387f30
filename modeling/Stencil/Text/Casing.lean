import Stencil.Text.Blank
import Stencil.Text.CasingData

set_option autoImplicit false

namespace Stencil.Text

def CaseRun.covers (run : CaseRun) (code : Nat) : Bool :=
  run.first ≤ code && code ≤ run.last && (code - run.first) % run.stride == 0

/-- The own list of a code point, if it has one; the lists stand in the order of code points. -/
def expansionOf? (code : Nat) : List (Nat × List Nat) → Option (List Nat)
  | [] => none
  | (first, image) :: rest =>
    if code < first then none else if code = first then some image else expansionOf? code rest

/-- The run that maps a code point, if there is one; the runs stand in the order of their first
code points. -/
def runOf? (code : Nat) : List CaseRun → Option CaseRun
  | [] => none
  | run :: rest =>
    if code < run.first then none else if run.covers code then some run else runOf? code rest

/-- The image of a character: its own list if it has one, else what its run says, else itself. -/
def caseImage (expansions : List (Nat × List Nat)) (runs : List CaseRun) (c : Char) : List Char :=
  match expansionOf? c.toNat expansions with
  | some image => image.map Char.ofNat
  | none =>
    match runOf? c.toNat runs with
    | some run => [Char.ofNat (c.toNat + run.shift).toNat]
    | none => [c]

def upperChar (c : Char) : List Char := caseImage upperExpansions upperRuns c

/-- The lower case of a character that stands alone. -/
def lowerChar (c : Char) : List Char := caseImage lowerExpansions lowerRuns c

def upper (cs : List Char) : List Char := cs.flatMap upperChar

/-- Whether the first character that is not ignored for casing has a case. -/
def meetsCased (cs : List Char) : Bool :=
  match cs.dropWhile caseIgnorableChars.contains with
  | [] => false
  | c :: _ => casedChars.contains c

/-- The small sigma between the text before it, given backwards, and the text after it: final
when a cased character precedes and none follows. -/
def smallSigma (before after : List Char) : Char :=
  if meetsCased before && !meetsCased after then 'ς' else 'σ'

/-- The lower case of the rest of a text, given backwards what stands before it. -/
def lowerAfter (before : List Char) : List Char → List Char
  | [] => []
  | c :: rest =>
    (if c = 'Σ' then [smallSigma before rest] else lowerChar c) ++ lowerAfter (c :: before) rest

def lower (cs : List Char) : List Char := lowerAfter [] cs

/-- The punctuation of ASCII. -/
def asciiPunctuation : CharSet := [(0x21, 0x2f), (0x3a, 0x40), (0x5b, 0x60), (0x7b, 0x7e)]

def separatesWords (c : Char) : Bool := asciiPunctuation.contains c || isBlank c

/-- The rest of a text in title case; `opening` tells whether the next character opens a word. -/
def titleFrom (opening : Bool) : List Char → List Char
  | [] => []
  | c :: rest =>
    if separatesWords c then c :: titleFrom true rest
    else (if opening then upperChar c else lowerChar c) ++ titleFrom false rest

/-- A text in title case: each word opens in upper case and goes on in lower case. -/
def title (cs : List Char) : List Char := titleFrom true cs

/-- A text with its first character in upper case and the others in lower case. -/
def capitalize : List Char → List Char
  | [] => []
  | c :: rest => upperChar c ++ lower rest

end Stencil.Text
