import Stencil.Engine.Lookup

set_option autoImplicit false

/-
The levels of rendering. On every level a procedure renders, and a compiler compiles, with the
calls of the level below, and on the lowest level they go too deep. So `calls limit` serves all
runs that do not nest more than `limit` calls.
-/

namespace Stencil

def Script.run (setting : Setting) (calls : Calls) (scope : Scope) : Script → Run String
  | .done result => .ofExcept result
  | .look next => do
    let state ← Run.state
    Script.run setting calls scope (next (scope.view (setting.overview state)))
  | .filter name value args next => do
    let result ← Run.attempt (setting.applyFilter name value args)
    Script.run setting calls scope (next result)
  | .block name next => do
    let result ← Run.attempt (scope.renderBlock calls name)
    Script.run setting calls scope (next result)
  | .super next => do
    let result ← Run.attempt (scope.renderSuper calls)
    Script.run setting calls scope (next result)
  | .fetch name eager next => do
    let result ← Run.attempt (setting.request calls name eager)
    Script.run setting calls scope (next result)
  | .clear next => do
    Run.update (·.forgetTemplates)
    Script.run setting calls scope next
  | .compile template next => do
    let result ← Run.attempt (setting.compileTemplate calls template)
    Script.run setting calls scope (next result)
  | .render template data next => do
    let result ← Run.attempt (setting.render calls template data)
    Script.run setting calls scope (next result)

def Recipe.run (setting : Setting) (calls : Calls) (compiler : Compiler) : Recipe → Run Module
  | .done result => .ofExcept result
  | .make body next => do
    let procedure ← Run.change (·.newProcedure body)
    Recipe.run setting calls compiler (next procedure)
  | .fetch name eager next => do
    let result ← Run.attempt (setting.request calls name eager)
    Recipe.run setting calls compiler (next result)
  | .look next => do
    let state ← Run.state
    Recipe.run setting calls compiler (next (setting.overview state))
  | .clear next => do
    Run.update (·.forgetTemplates)
    Recipe.run setting calls compiler next
  | .compile template next => do
    let result ← Run.attempt (setting.compileTemplate calls template)
    Recipe.run setting calls compiler (next result)
  | .render template data next => do
    let result ← Run.attempt (setting.render calls template data)
    Recipe.run setting calls compiler (next result)
  | .again name text next => do
    let result ← Run.attempt (calls.compile compiler name text)
    Recipe.run setting calls compiler (next result)

/-- Renders a procedure in a scope, with the calls of the level below. -/
def Procedure.run (setting : Setting) (calls : Calls) (procedure : Procedure) (scope : Scope) :
    Run String :=
  match procedure.body with
  | .code ops => Code.run setting calls scope ops
  | .native script => script.run setting calls scope

/-- The calls of a level. -/
def Setting.calls (setting : Setting) : Nat → Calls
  | 0 => ⟨fun _ _ => .tooDeep, fun _ _ _ => .tooDeep⟩
  | level + 1 => {
      invoke := fun procedure scope => procedure.run setting (setting.calls level) scope
      compile := fun compiler name text =>
        (compiler.recipe name text).run setting (setting.calls level) compiler }

end Stencil
