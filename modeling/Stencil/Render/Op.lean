import Stencil.Inspection

set_option autoImplicit false

namespace Stencil

inductive Op where
  /-- Puts out a text. -/
  | text (text : String)
  /-- Pushes the value of a variable. -/
  | lookup (name : String)
  /-- Pushes a value. -/
  | const (value : Value)
  /-- Pops `count` arguments and the value below them, and pushes what the filter makes of them. -/
  | filter (name : String) (count : Nat)
  /-- Pops a value and puts it out. -/
  | emit
  /-- Puts out the most derived body of a block. -/
  | block (name : String)
  /-- Puts out the next body of the current block. -/
  | super

/-- A list of instructions, which run one after the other. -/
abbrev Code := List Op

namespace Op

def inspect : Op → Inspection
  | .text s => .tuple "EmitRaw" [.text s]
  | .lookup name => .tuple "Lookup" [.text name]
  | .const value => .tuple "LoadConst" [value.inspect]
  | .filter name count => .tuple "ApplyFilter" [.text name, .count count]
  | .emit => .atom "Emit"
  | .block name => .tuple "CallBlock" [.text name]
  | .super => .atom "FastSuper"

def equals : Op → Op → Bool
  | .text a, .text b => a == b
  | .lookup a, .lookup b => a == b
  | .const a, .const b => a == b
  | .filter a m, .filter b n => a == b && m == n
  | .emit, .emit => true
  | .block a, .block b => a == b
  | .super, .super => true
  | _, _ => false

end Op

namespace Code

def equals : Code → Code → Bool
  | [], [] => true
  | a :: as, b :: bs => a.equals b && equals as bs
  | _, _ => false

/-- A number in at least five hexadecimal digits. -/
def lineNumber (n : Nat) : String :=
  let digits := Text.hex n
  String.ofList (List.replicate (5 - digits.length) '0' ++ digits)

def lines (n : Nat) : Code → List Inspection
  | [] => []
  | op :: rest => .atom (lineNumber n ++ " | " ++ op.inspect.plain) :: lines (n + 1) rest

def inspect (code : Code) : Inspection := .list (lines 0 code)

end Code

end Stencil
