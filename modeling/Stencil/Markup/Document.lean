import Stencil.Error
import Stencil.Markup.Piece
import Stencil.Render.Op

set_option autoImplicit false

/-
Reading markup. The pieces of a text are read in order into a document: the instructions of the
text itself, those of its blocks, and the template that it extends. The first mistake ends it.
-/

namespace Stencil.Markup

inductive Mistake where
  | unclosedTag
  | missingParent
  | nestedBlock
  | missingBlockName
  | strayEnd
  | unknownTag
  | unclosedBlock
  deriving DecidableEq, Repr

def Mistake.toError (mistake : Mistake) : Error :=
  .new .compileError <|
    match mistake with
    | unclosedTag => "unclosed tag"
    | missingParent => "missing parent"
    | nestedBlock => "nested blocks are not supported"
    | missingBlockName => "missing block name"
    | strayEnd => "stray endblock"
    | unknownTag => "unknown tag"
    | unclosedBlock => "unclosed block"

/-- A markup text: the instructions outside of blocks, the blocks in order, and the name of the
template that is extended. -/
structure Document where
  root : Code
  blocks : List (String × Code)
  parent : Option String

/-- A document while it is read, with the block that is open. The latest instruction and the latest
block stand first. -/
structure Reading where
  root : Code
  blocks : List (String × Code)
  current : Option (String × Code)
  parent : Option String

namespace Reading

def empty : Reading := ⟨[], [], none, none⟩

def emit (reading : Reading) (code : Code) : Reading :=
  match reading.current with
  | some (name, body) => { reading with current := some (name, code.reverse ++ body) }
  | none => { reading with root := code.reverse ++ reading.root }

end Reading

/-- The instructions of an expression: `super()`, or a variable and the filters it goes through. -/
def expressionCode (inside : List Char) : Code :=
  if inside = "super()".toList then [.super]
  else
    match (Text.splitAt (· = '|') inside).map fun part => String.ofList (Text.trim part) with
    | [] => []
    | name :: filters => .lookup name :: filters.map (fun filter => .filter filter 0) ++ [.emit]

/-- A name without the quotes around it. -/
def unquoted (word : List Char) : String :=
  String.ofList (Text.stripBoth (· = '\x22') word)

/-- What a directive asks for. The words behind those that matter are ignored. -/
inductive Directive where
  /-- To extend a template, which has to be named. -/
  | inherit (parent : Option String)
  /-- To open a block, which has to be named. -/
  | opening (block : Option String)
  /-- To close the block that is open. -/
  | closing
  /-- Nothing that is known. -/
  | unknown
  deriving DecidableEq, Repr

def Directive.ofWords : List (List Char) → Directive
  | [] => unknown
  | word :: rest =>
    if word = "extends".toList then inherit (rest.head?.map unquoted)
    else if word = "block".toList then opening (rest.head?.map String.ofList)
    else if word = "endblock".toList then closing
    else unknown

namespace Reading

def follow (reading : Reading) : Directive → Except Mistake Reading
  | .inherit none => .error .missingParent
  | .inherit (some parent) => .ok { reading with parent := some parent }
  | .opening block =>
    match reading.current, block with
    | some _, _ => .error .nestedBlock
    | none, none => .error .missingBlockName
    | none, some name =>
      .ok { reading with root := .block name :: reading.root, current := some (name, []) }
  | .closing =>
    match reading.current with
    | none => .error .strayEnd
    | some (name, body) =>
      .ok { reading with blocks := (name, body.reverse) :: reading.blocks, current := none }
  | .unknown => .error .unknownTag

def read (reading : Reading) : Piece → Except Mistake Reading
  | .text chars => .ok (reading.emit [.text (String.ofList chars)])
  | .tag .expression inside => .ok (reading.emit (expressionCode inside))
  | .tag .directive inside => reading.follow (.ofWords (Text.words inside))
  | .unclosed => .error .unclosedTag

/-- The document that was read, in which each block has an end. -/
def finish (reading : Reading) : Except Mistake Document :=
  if reading.current.isSome then .error .unclosedBlock
  else .ok ⟨reading.root.reverse, reading.blocks.reverse, reading.parent⟩

end Reading

def Document.parse (text : String) : Except Mistake Document := do
  let reading ← (pieces text.toList).foldlM Reading.read Reading.empty
  reading.finish

end Stencil.Markup
