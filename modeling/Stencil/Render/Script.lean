import Stencil.Data
import Stencil.Template.Basic

set_option autoImplicit false

namespace Stencil

structure Overview where
  loaders : Nat
  hasCompiler : Bool
  filters : List String
  templates : List String
  policy : Policy
  deriving DecidableEq, Repr

def Overview.inspect (overview : Overview) : Inspection :=
  .record "Environment" [
    ("loaders", .count overview.loaders),
    ("has_compiler", .truth overview.hasCompiler),
    ("filters", .names overview.filters),
    ("templates", .names overview.templates),
    ("freshness_policy", .atom overview.policy.name)]

def inspectContext (name : Option String) (bindings : Dict Value) (blocks : List String) :
    Inspection :=
  .record "Context" [
    ("name", .optional (name.map .text)),
    ("variables", inspectVariables bindings),
    ("blocks", .names blocks)]

/-- What a script sees: the template and its variables, the block that is being rendered with its
depth, the blocks with the number of their bodies, and the environment. -/
structure View where
  name : Option String
  bindings : Dict Value
  current : Option (String × Nat)
  blocks : List (String × Nat)
  environment : Overview

/-- The value of a variable, which is the empty text where there is none. -/
def View.lookup (view : View) (name : String) : Value :=
  (view.bindings.get? name).getD .missing

def View.inspect (view : View) : Inspection :=
  .record "State" [
    ("current_block", .optional (view.current.map fun block => .text block.1)),
    ("ctx", inspectContext view.name view.bindings (view.blocks.map (·.1))),
    ("env", view.environment.inspect)]

/-- A native procedure from some point on. -/
inductive Script where
  /-- It is over, with its output or an error. -/
  | done (result : Except Error String)
  /-- It looks around. -/
  | look (next : View → Script)
  /-- It applies a filter. -/
  | filter (name : String) (value : Value) (args : List Value)
      (next : Except Error Value → Script)
  /-- It renders the most derived body of a block. -/
  | block (name : String) (next : Except Error String → Script)
  /-- It renders the next body of the current block. -/
  | super (next : Except Error String → Script)
  /-- It requests a template, compiled at once when `eager` is set. -/
  | fetch (name : String) (eager : Bool) (next : Except Error Template → Script)
  /-- It has all templates forgotten. -/
  | clear (next : Script)
  /-- It compiles a template. -/
  | compile (template : Template) (next : Except Error Unit → Script)
  /-- It renders a template. -/
  | render (template : Template) (data : Data) (next : Except Error String → Script)

namespace Script

/-- The script that runs one script and goes on with its result. -/
def bind : Script → (Except Error String → Script) → Script
  | done result, next => next result
  | look rest, next => look fun view => (rest view).bind next
  | filter name value args rest, next =>
    filter name value args fun result => (rest result).bind next
  | block name rest, next => block name fun result => (rest result).bind next
  | super rest, next => super fun result => (rest result).bind next
  | fetch name eager rest, next => fetch name eager fun result => (rest result).bind next
  | clear rest, next => clear (rest.bind next)
  | compile template rest, next => compile template fun result => (rest result).bind next
  | render template data rest, next => render template data fun result => (rest result).bind next

def text (s : String) : Script := done (.ok s)

def report (f : View → String) : Script := look fun view => text (f view)

/-- The output of one script and behind it that of another, which runs only if the first did not
fail. -/
def append (first second : Script) : Script :=
  first.bind fun
    | .error error => done (.error error)
    | .ok before => second.bind fun
      | .error error => done (.error error)
      | .ok after => text (before ++ after)

end Script

end Stencil
