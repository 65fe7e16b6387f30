import Stencil.Text.Quoted
import Stencil.Value.Written

set_option autoImplicit false

namespace Stencil

/-- What an inspection shows. -/
inductive Inspection where
  /-- A text that is shown as it is. -/
  | atom (text : String)
  /-- A thing behind a word that says what it is. -/
  | labelled (label : String) (body : Inspection)
  /-- A name with unnamed parts. -/
  | tuple (name : String) (parts : List Inspection)
  /-- A name with named parts. -/
  | record (name : String) (fields : List (String × Inspection))
  /-- A sequence. -/
  | list (items : List Inspection)
  /-- A dictionary. -/
  | map (entries : List (String × Inspection))

namespace Inspection

def newLine (depth : Nat) : String := "\n" ++ String.ofList (List.replicate (4 * depth) ' ')

/-- Written parts between two brackets: on one line, with `pad` inside the brackets, or at a depth
with each part on a line of its own. Without parts the brackets stand alone. -/
def group (depth : Option Nat) (pad before after : String) (parts : List String) : String :=
  match parts, depth with
  | [], _ => before ++ after
  | _, none => before ++ pad ++ String.intercalate ", " parts ++ pad ++ after
  | _, some depth =>
    before ++ String.join (parts.map fun part => newLine (depth + 1) ++ part ++ ",") ++
      newLine depth ++ after

def deeper (depth : Option Nat) : Option Nat := depth.map (· + 1)

mutual

/-- Writes an inspection on one line, or at a depth with one part per line. -/
def write (depth : Option Nat) : Inspection → String
  | atom text => text
  | labelled label body => label ++ " " ++ write depth body
  | tuple name [] => name
  | tuple name (part :: parts) =>
    name ++ group depth "" "(" ")" (writeAll (deeper depth) (part :: parts))
  | record name [] => name
  | record name (field :: fields) =>
    name ++ " " ++ group depth " " "\x7b" "\x7d" (writeFields (deeper depth) (field :: fields))
  | list items => group depth "" "[" "]" (writeAll (deeper depth) items)
  | map entries => group depth "" "\x7b" "\x7d" (writeEntries (deeper depth) entries)

def writeAll (depth : Option Nat) : List Inspection → List String
  | [] => []
  | item :: rest => write depth item :: writeAll depth rest

def writeFields (depth : Option Nat) : List (String × Inspection) → List String
  | [] => []
  | (name, field) :: rest => (name ++ ": " ++ write depth field) :: writeFields depth rest

def writeEntries (depth : Option Nat) : List (String × Inspection) → List String
  | [] => []
  | (name, entry) :: rest =>
    (Text.quote name ++ ": " ++ write depth entry) :: writeEntries depth rest

end

def plain (inspection : Inspection) : String := inspection.write none

def pretty (inspection : Inspection) : String := inspection.write (some 0)

def text (text : String) : Inspection := .atom (Text.quote text)

def count (n : Nat) : Inspection := .atom (toString n)

def truth (value : Bool) : Inspection := .atom (writeBool value)

def optional : Option Inspection → Inspection
  | none => .atom "None"
  | some inspection => .tuple "Some" [inspection]

def names (names : List String) : Inspection := .list (names.map text)

end Inspection

mutual

/-- The inspection of a value: its kind and what is in it. -/
def Value.inspect : Value → Inspection
  | .null => .atom "Null"
  | .bool value => .atom ("Bool(" ++ writeBool value ++ ")")
  | .number value => .atom ("Number(" ++ value.write ++ ")")
  | .string text => .atom ("String(" ++ Text.quote text ++ ")")
  | .array items => .labelled "Array" (.list (inspectItems items))
  | .object ⟨entries⟩ => .labelled "Object" (.map (inspectEntries entries))

def Value.inspectItems : List Value → List Inspection
  | [] => []
  | item :: rest => item.inspect :: inspectItems rest

def Value.inspectEntries {below : Option String} :
    Entries Value below → List (String × Inspection)
  | .nil => []
  | .cons name _ value rest => (name, value.inspect) :: inspectEntries rest

end

def inspectVariables (bindings : Dict Value) : Inspection :=
  .map (bindings.entries.map fun entry => (entry.1, entry.2.inspect))

end Stencil
