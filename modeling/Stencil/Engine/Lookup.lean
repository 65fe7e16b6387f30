import Stencil.Engine.Machine

set_option autoImplicit false

namespace Stencil

namespace Setting

variable (setting : Setting) (calls : Calls)

def isCurrent (template : Template) : Run Bool :=
  match template.source.freshness with
  | none => return setting.environment.policy.isFresh
  | some freshness => do
    let fresh := freshness.holds setting.sources (← Run.state).checked
    Run.note (.check freshness fresh)
    return fresh

/-- Asks loaders in order, the first of which is at the given place, for a name. -/
def resolveFrom (place : Nat) (name : String) : List Loader → Run Source
  | [] => .fail (.templateNotFound name)
  | loader :: rest => do
    Run.note (.load place name)
    match ← Run.ofExcept (loader.get setting.sources name) with
    | some source => return source
    | none => resolveFrom (place + 1) name rest

def resolve (name : String) : Run Source := setting.resolveFrom 0 name setting.environment.loaders

/-- Has a compiler compile a text, and records the call and the answer. -/
def callCompiler (compiler : Compiler) (template : Option Nat) (name text : String) :
    Run Module := do
  Run.note (.compile template name text)
  let result ← Run.attempt (calls.compile compiler name text)
  Run.note (.answer template result)
  Run.ofExcept result

/-- Compiles the text of a template. What fails here fails with a compile error. -/
def compile (template : Template) : Run Compiled :=
  match setting.environment.compiler with
  | none => .fail .noCompiler
  | some compiler => do
    let result ← Run.attempt
      (callCompiler calls compiler (some template.id) template.name template.source.text)
    let m ← Run.ofExcept (result.mapError Error.asCompileError)
    Run.ofExcept m.compiled

/-- The compiled form of a template. It is found once and kept from then on. -/
def compiledForm (template : Template) : Run Compiled := do
  match (← Run.state).compiledForm? template.id with
  | some form => return form
  | none =>
    let form ← setting.compile calls template
    Run.update (·.keepCompiled template.id form)
    return ((← Run.state).compiledForm? template.id).getD form

def compileTemplate (template : Template) : Run Unit :=
  Run.blame template.name do
    let _ ← setting.compiledForm calls template
    return

/-- Loads a template anew and keeps it, after it was compiled if it has to be at once. -/
def load (name : String) (eager : Bool) : Run Template := do
  let source ← setting.resolve name
  let template ← Run.change (·.newTemplate name source)
  if eager then setting.compileTemplate calls template
  Run.update (·.keep template)
  return template

/-- The template of a name: the one that is kept if it is current, and else a new one. -/
def fetch (name : String) (eager : Bool) : Run Template := do
  match (← Run.state).cache.get? name with
  | none => setting.load calls name eager
  | some template =>
    if ← setting.isCurrent template then
      if eager then setting.compileTemplate calls template
      return template
    else setting.load calls name eager

/-- The lookup that the compiler or a procedure requests. -/
def request (name : String) (eager : Bool) : Run Template := do
  Run.note (.request name)
  setting.fetch calls name eager

/-- Renders a template with data. Errors are blamed on the template, unless they blame another. -/
def render (template : Template) (data : Data) : Run String :=
  Run.blame template.name do
    let value ← Run.ofExcept data.toValue
    let form ← setting.compiledForm calls template
    let bindings ← Run.ofExcept value.toVariables
    calls.invoke form.root (.outside ⟨some template.name, bindings, form.blocks⟩)

end Setting

end Stencil
