import Stencil.Engine.Run

set_option autoImplicit false

namespace Stencil

/-- How to render a procedure in a scope, and how to have a compiler compile a text under a name. -/
structure Calls where
  invoke : Procedure → Scope → Run String
  compile : Compiler → String → String → Run Module

def Setting.applyFilter (setting : Setting) (name : String) (value : Value) (args : List Value) :
    Run Value :=
  match setting.environment.filters.get? name with
  | none => .fail (.unknownFilter name)
  | some filter => do
    Run.note (.filter name value args)
    Run.ofExcept (filter.apply value args)

def Block.render (calls : Calls) (context : Context) (block : Block) : Run String :=
  calls.invoke block.procedure (.inside context block)

/-- Renders the most derived body of a block. -/
def Scope.renderBlock (calls : Calls) (scope : Scope) (name : String) : Run String := do
  let block ← Run.ofExcept (scope.context.block name)
  block.render calls scope.context

/-- Renders the body behind the current one. -/
def Scope.renderSuper (calls : Calls) (scope : Scope) : Run String := do
  let block ← Run.ofExcept scope.super
  block.render calls scope.context

/-- What instructions work on: a stack of values, the top first, and the output so far. -/
structure Machine where
  stack : List Value
  output : String

namespace Machine

def initial : Machine := ⟨[], ""⟩

def push (machine : Machine) (value : Value) : Machine :=
  { machine with stack := value :: machine.stack }

def write (machine : Machine) (text : String) : Machine :=
  { machine with output := machine.output ++ text }

def emit (machine : Machine) (value : Value) : Machine :=
  { machine with output := value.writeTo machine.output }

theorem emit_eq (machine : Machine) (value : Value) :
    machine.emit value = machine.write value.output :=
  congrArg (Machine.mk machine.stack) (value.writeTo_eq machine.output)

def pop (machine : Machine) : Except Error (Value × Machine) :=
  match machine.stack with
  | [] => .error .stackUnderflow
  | value :: stack => .ok (value, { machine with stack := stack })

/-- Takes the top values off the stack, in the order in which they were put there. -/
def popMany (machine : Machine) (count : Nat) : Except Error (List Value × Machine) :=
  if machine.stack.length < count then .error .stackUnderflow
  else .ok ((machine.stack.take count).reverse, { machine with stack := machine.stack.drop count })

end Machine

def Op.run (setting : Setting) (calls : Calls) (scope : Scope) (machine : Machine) :
    Op → Run Machine
  | .text s => return machine.write s
  | .lookup name => return machine.push (scope.context.lookup name)
  | .const value => return machine.push value
  | .filter name count => do
    let (args, machine) ← Run.ofExcept (machine.popMany count)
    let (value, machine) ← Run.ofExcept machine.pop
    let result ← setting.applyFilter name value args
    return machine.push result
  | .emit => do
    let (value, machine) ← Run.ofExcept machine.pop
    return machine.emit value
  | .block name => return machine.write (← scope.renderBlock calls name)
  | .super => return machine.write (← scope.renderSuper calls)

/-- Runs instructions one after the other, from a machine to the machine they leave. -/
def Code.runFrom (setting : Setting) (calls : Calls) (scope : Scope) (machine : Machine) :
    Code → Run Machine
  | [] => return machine
  | op :: rest => do
    let machine ← op.run setting calls scope machine
    Code.runFrom setting calls scope machine rest

/-- The output of instructions. Values that they leave on the stack do not matter. -/
def Code.run (setting : Setting) (calls : Calls) (scope : Scope) (code : Code) : Run String := do
  let machine ← Code.runFrom setting calls scope .initial code
  return machine.output

end Stencil
