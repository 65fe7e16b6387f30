import Stencil.Render.Procedure

set_option autoImplicit false

namespace Stencil

/-- A step that has a native and an interpreted form. -/
inductive Action where
  /-- Puts out a text. -/
  | text (s : String)
  /-- Puts out a variable. -/
  | lookup (name : String)
  /-- Puts out the most derived body of a block. -/
  | block (name : String)
  /-- Puts out the next body of the current block. -/
  | super
  /-- Puts out what a filter makes of a variable and further arguments. -/
  | filter (name subject : String) (args : List Value)

namespace Action

def script : Action → Script
  | .text s => .text s
  | .lookup name => .report fun view => (view.lookup name).output
  | .block name => .block name .done
  | .super => .super .done
  | .filter name subject args =>
    .look fun view => .filter name (view.lookup subject) args fun result =>
      .done (result.map Value.output)

def code : Action → Code
  | .text s => [.text s]
  | .lookup name => [.lookup name, .emit]
  | .block name => [.block name]
  | .super => [.super]
  | .filter name subject args =>
    .lookup subject :: args.map .const ++ [.filter name args.length, .emit]

end Action

inductive Step where
  /-- A step that instructions can do as well. -/
  | act (action : Action)
  /-- Puts out the name of the template. -/
  | name
  /-- Puts out the name of the current block. -/
  | current
  /-- Puts out the name and the depth of the current block. -/
  | depth
  /-- Puts out all variables. -/
  | bindings
  /-- Puts out the name of each block and the number of its bodies. -/
  | blocks
  /-- Loads and renders another template. -/
  | embed (template : String) (data : Data)
  /-- Puts out the inspection of what is being rendered. -/
  | inspect
  /-- Fails. -/
  | fail (error : Error)
  /-- Puts out what the steps put out, and a text instead if they fail with the given kind, or at
  all when no kind is given. -/
  | guard (steps : List Step) (kind : Option ErrorKind) (fallback : String)

namespace Step

/-- What stands where there is nothing to name. -/
def nothing : String := "-"

mutual

def script : Step → Script
  | .act action => action.script
  | .name => .report fun view => view.name.getD nothing
  | .current => .report fun view => (view.current.map (·.1)).getD nothing
  | .depth => .report fun view =>
    (view.current.map fun block => block.1 ++ "@" ++ toString block.2).getD nothing
  | .bindings => .report fun view => (Value.object view.bindings).compact
  | .blocks => .report fun view =>
    String.join (view.blocks.map fun block => block.1 ++ ":" ++ toString block.2 ++ ";")
  | .embed template data =>
    .fetch template false fun
      | .error error => .done (.error error)
      | .ok template => .render template data .done
  | .inspect => .report fun view => view.inspect.plain
  | .fail error => .done (.error error)
  | .guard steps kind fallback =>
    (scripts steps).bind fun
      | .ok output => .text output
      | .error error => if kind.all (· == error.kind) then .text fallback else .done (.error error)

/-- The script of a list of steps: what they put out, one after the other, up to the first that
fails. -/
def scripts : List Step → Script
  | [] => .text ""
  | step :: rest => (script step).append (scripts rest)

end

end Step

end Stencil
