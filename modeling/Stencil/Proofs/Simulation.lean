import Stencil.Engine.Calls

set_option autoImplicit false

/-
Comparing calls. Procedures, scripts and recipes reach everything one level down through `Calls`
alone, so what holds between two such records holds between all runs that are made of them. The
relation only has to survive the few ways in which runs are put together.
-/

namespace Stencil

/-- A relation between runs that equal runs have, and that the ways to combine runs keep. -/
structure Run.Lifts (R : (α : Type) → Run α → Run α → Prop) : Prop where
  refl : ∀ {α : Type} (run : Run α), R α run run
  bind : ∀ {α β : Type} {run other : Run α} {next after : α → Run β},
    R α run other → (∀ value, R β (next value) (after value)) → R β (run >>= next) (other >>= after)
  attempt : ∀ {α : Type} {run other : Run α}, R α run other → R _ run.attempt other.attempt
  blame : ∀ {α : Type} {run other : Run α} (name : String),
    R α run other → R α (run.blame name) (other.blame name)

/-- Scopes among which rendering stays: they include those outside of any block, and lead to each
other through blocks and through `super`. -/
structure Scope.Closed (allowed : Scope → Prop) : Prop where
  outside : ∀ context, allowed (.outside context)
  block : ∀ {scope : Scope} {name : String} {block : Block}, allowed scope →
    scope.context.block name = .ok block → allowed (.inside scope.context block)
  super : ∀ {scope : Scope} {block : Block}, allowed scope →
    scope.super = .ok block → allowed (.inside scope.context block)

theorem Scope.closed_true : Scope.Closed fun _ => True :=
  ⟨fun _ => trivial, fun _ _ => trivial, fun _ _ => trivial⟩

/-- Two ways to make the calls of a level are related when all compilations are, and all
invocations in the scopes that are allowed. -/
structure Calls.Related (R : (α : Type) → Run α → Run α → Prop) (allowed : Scope → Prop)
    (calls other : Calls) : Prop where
  invoke : ∀ (procedure : Procedure) (scope : Scope), allowed scope →
    R String (calls.invoke procedure scope) (other.invoke procedure scope)
  compile : ∀ (compiler : Compiler) (name text : String),
    R Module (calls.compile compiler name text) (other.compile compiler name text)

section Related

variable {R : (α : Type) → Run α → Run α → Prop} (lifts : Run.Lifts R)
variable {allowed : Scope → Prop} (closed : Scope.Closed allowed)
variable {calls other : Calls} (related : Calls.Related R allowed calls other)

include lifts closed related

theorem Scope.renderBlock_related (scope : Scope) (inScope : allowed scope) (name : String) :
    R String (scope.renderBlock calls name) (scope.renderBlock other name) := by
  unfold Scope.renderBlock
  cases found : scope.context.block name with
  | error error => exact lifts.refl _
  | ok block => exact related.invoke _ _ (closed.block inScope found)

theorem Scope.renderSuper_related (scope : Scope) (inScope : allowed scope) :
    R String (scope.renderSuper calls) (scope.renderSuper other) := by
  unfold Scope.renderSuper
  cases found : scope.super with
  | error error => exact lifts.refl _
  | ok block => exact related.invoke _ _ (closed.super inScope found)

theorem Op.run_related (setting : Setting) (scope : Scope) (inScope : allowed scope)
    (machine : Machine) (op : Op) :
    R Machine (op.run setting calls scope machine) (op.run setting other scope machine) := by
  cases op with
  | text | lookup | const | filter | emit => exact lifts.refl _
  | block name =>
      exact lifts.bind (Scope.renderBlock_related lifts closed related scope inScope name)
        fun _ => lifts.refl _
  | super =>
      exact lifts.bind (Scope.renderSuper_related lifts closed related scope inScope)
        fun _ => lifts.refl _

theorem Code.runFrom_related (setting : Setting) (scope : Scope) (inScope : allowed scope)
    (machine : Machine) (code : Code) :
    R Machine (code.runFrom setting calls scope machine)
      (code.runFrom setting other scope machine) := by
  induction code generalizing machine with
  | nil => exact lifts.refl _
  | cons op rest ih =>
      exact lifts.bind (Op.run_related lifts closed related setting scope inScope machine op) ih

theorem Code.run_related (setting : Setting) (scope : Scope) (inScope : allowed scope)
    (code : Code) :
    R String (code.run setting calls scope) (code.run setting other scope) :=
  lifts.bind (Code.runFrom_related lifts closed related setting scope inScope .initial code)
    fun _ => lifts.refl _

omit closed in
theorem Setting.compile_related (setting : Setting) (template : Template) :
    R Compiled (setting.compile calls template) (setting.compile other template) := by
  unfold Setting.compile
  split
  · exact lifts.refl _
  · refine lifts.bind (lifts.attempt ?_) fun _ => lifts.refl _
    apply lifts.bind (lifts.refl _)
    intro _
    exact lifts.bind (lifts.attempt (related.compile _ _ _)) fun _ => lifts.refl _

omit closed in
theorem Setting.compiledForm_related (setting : Setting) (template : Template) :
    R Compiled (setting.compiledForm calls template) (setting.compiledForm other template) := by
  apply lifts.bind (lifts.refl _)
  intro state
  split
  · exact lifts.refl _
  · exact lifts.bind (Setting.compile_related lifts related setting template)
      fun _ => lifts.refl _

omit closed in
theorem Setting.compileTemplate_related (setting : Setting) (template : Template) :
    R Unit (setting.compileTemplate calls template) (setting.compileTemplate other template) := by
  apply lifts.blame
  exact lifts.bind (Setting.compiledForm_related lifts related setting template)
    fun _ => lifts.refl _

omit closed in
theorem Setting.load_related (setting : Setting) (name : String) (eager : Bool) :
    R Template (setting.load calls name eager) (setting.load other name eager) := by
  apply lifts.bind (lifts.refl _)
  intro source
  apply lifts.bind (lifts.refl _)
  intro template
  cases eager with
  | false => exact lifts.refl _
  | true =>
      exact lifts.bind (Setting.compileTemplate_related lifts related setting template)
        fun _ => lifts.refl _

omit closed in
theorem Setting.fetch_related (setting : Setting) (name : String) (eager : Bool) :
    R Template (setting.fetch calls name eager) (setting.fetch other name eager) := by
  apply lifts.bind (lifts.refl _)
  intro state
  split
  · exact Setting.load_related lifts related setting name eager
  · apply lifts.bind (lifts.refl _)
    intro fresh
    cases fresh with
    | false => exact Setting.load_related lifts related setting name eager
    | true =>
        cases eager with
        | false => exact lifts.refl _
        | true =>
            exact lifts.bind (Setting.compileTemplate_related lifts related setting _)
              fun _ => lifts.refl _

omit closed in
theorem Setting.request_related (setting : Setting) (name : String) (eager : Bool) :
    R Template (setting.request calls name eager) (setting.request other name eager) := by
  apply lifts.bind (lifts.refl _)
  intro _
  exact Setting.fetch_related lifts related setting name eager

theorem Setting.render_related (setting : Setting) (template : Template) (data : Data) :
    R String (setting.render calls template data) (setting.render other template data) := by
  apply lifts.blame
  apply lifts.bind (lifts.refl _)
  intro value
  apply lifts.bind (Setting.compiledForm_related lifts related setting template)
  intro form
  apply lifts.bind (lifts.refl _)
  intro bindings
  exact related.invoke _ _ (closed.outside _)

theorem Script.run_related (setting : Setting) (scope : Scope) (inScope : allowed scope)
    (script : Script) :
    R String (script.run setting calls scope) (script.run setting other scope) := by
  induction script with
  | done result => exact lifts.refl _
  | look next ih => exact lifts.bind (lifts.refl _) fun _ => ih _
  | filter name value args next ih => exact lifts.bind (lifts.refl _) ih
  | block name next ih =>
      exact lifts.bind (lifts.attempt
        (Scope.renderBlock_related lifts closed related scope inScope name)) ih
  | super next ih =>
      exact lifts.bind (lifts.attempt
        (Scope.renderSuper_related lifts closed related scope inScope)) ih
  | fetch name eager next ih =>
      exact lifts.bind (lifts.attempt (Setting.request_related lifts related setting name eager)) ih
  | clear next ih => exact lifts.bind (lifts.refl _) fun _ => ih
  | compile template next ih =>
      exact lifts.bind (lifts.attempt
        (Setting.compileTemplate_related lifts related setting template)) ih
  | render template data next ih =>
      exact lifts.bind (lifts.attempt
        (Setting.render_related lifts closed related setting template data)) ih

/-- In a scope that is allowed, a procedure does with one way to make calls what it does with the
other. -/
theorem Procedure.run_related (setting : Setting) (procedure : Procedure) (scope : Scope)
    (inScope : allowed scope) :
    R String (procedure.run setting calls scope) (procedure.run setting other scope) := by
  unfold Procedure.run
  split
  · exact Code.run_related lifts closed related setting scope inScope _
  · exact Script.run_related lifts closed related setting scope inScope _

theorem Recipe.run_related (setting : Setting) (compiler : Compiler) (recipe : Recipe) :
    R Module (recipe.run setting calls compiler) (recipe.run setting other compiler) := by
  induction recipe with
  | done result => exact lifts.refl _
  | make body next ih => exact lifts.bind (lifts.refl _) ih
  | fetch name eager next ih =>
      exact lifts.bind (lifts.attempt (Setting.request_related lifts related setting name eager)) ih
  | look next ih => exact lifts.bind (lifts.refl _) fun _ => ih _
  | clear next ih => exact lifts.bind (lifts.refl _) fun _ => ih
  | compile template next ih =>
      exact lifts.bind (lifts.attempt
        (Setting.compileTemplate_related lifts related setting template)) ih
  | render template data next ih =>
      exact lifts.bind (lifts.attempt
        (Setting.render_related lifts closed related setting template data)) ih
  | again name text next ih =>
      exact lifts.bind (lifts.attempt (related.compile compiler name text)) ih

end Related

end Stencil
