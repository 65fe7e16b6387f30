import Stencil.Render.Procedure

set_option autoImplicit false

namespace Stencil

/-- The stacks of bodies by block. -/
abbrev Blocks := Dict (List Procedure)

/-- What is fixed during one render. -/
structure Context where
  name : Option String
  bindings : Dict Value
  blocks : Blocks

/-- A body of a block, with its place in the stack it comes from. -/
structure Block where
  name : String
  depth : Nat
  procedure : Procedure

/-- A context and the body that is being rendered, if one is. -/
structure Scope where
  context : Context
  current : Option Block

namespace Context

def ofData (name : Option String) (data : Data) (blocks : Blocks) : Except Error Context := do
  let value ← data.toValue
  let bindings ← value.toVariables
  return ⟨name, bindings, blocks⟩

/-- The value of a variable, which is the empty text where there is none. -/
def lookup (context : Context) (name : String) : Value :=
  (context.bindings.get? name).getD .missing

def block (context : Context) (name : String) : Except Error Block :=
  match context.blocks.get? name with
  | some (procedure :: _) => .ok ⟨name, 0, procedure⟩
  | _ => .error (.unknownBlock name)

/-- The body behind a body. The given body has to stand in this context, at its depth. -/
def super (context : Context) (block : Block) : Except Error Block :=
  match context.blocks.get? block.name with
  | none => .error (.noSuperBlock block.name)
  | some stack =>
    if (stack[block.depth]?).any fun procedure => procedure.same block.procedure then
      match stack[block.depth + 1]? with
      | some procedure => .ok ⟨block.name, block.depth + 1, procedure⟩
      | none => .error (.noSuperBlock block.name)
    else .error (.noSuperBlock block.name)

def inspect (context : Context) : Inspection :=
  inspectContext context.name context.bindings context.blocks.keys

end Context

namespace Block

def inspect (block : Block) : Inspection :=
  .record "Block" [
    ("name", .text block.name),
    ("depth", .count block.depth),
    ("procedure", block.procedure.inspect)]

def inspectCall (block : Block) : Inspection := .record "SuperCall" [("block", block.inspect)]

end Block

def inspectStack (stack : List Procedure) : Inspection := .list (stack.map Procedure.inspect)

namespace Scope

def outside (context : Context) : Scope := ⟨context, none⟩

def inside (context : Context) (block : Block) : Scope := ⟨context, some block⟩

/-- The body that `super` leads to. -/
def super (scope : Scope) : Except Error Block :=
  match scope.current with
  | none => .error .superOutsideBlock
  | some block => scope.context.super block

/-- What a script sees in a scope. -/
def view (scope : Scope) (environment : Overview) : View where
  name := scope.context.name
  bindings := scope.context.bindings
  current := scope.current.map fun block => (block.name, block.depth)
  blocks := scope.context.blocks.entries.map fun entry => (entry.1, entry.2.length)
  environment := environment

end Scope

end Stencil
