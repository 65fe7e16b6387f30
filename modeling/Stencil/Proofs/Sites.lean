import Mathlib.Logic.Relation
import Stencil.Proofs.Depth
import Stencil.Render.Step

set_option autoImplicit false

namespace Stencil

/-! ### Runs of some depth -/

/-- Within some depth the run ends with the result, and leaves the state `after`. -/
def Setting.Ends {α : Type} (setting : Setting) (run : Calls → Run α) (before : State)
    (result : Except Error α) (after : State) : Prop :=
  ∃ level, run (setting.calls level) before = some (result, after)

/-- Within some depth the run fails with the error. -/
def Setting.Fails {α : Type} (setting : Setting) (run : Calls → Run α) (state : State)
    (error : Error) : Prop :=
  ∃ after, setting.Ends run state (.error error) after

/-- Where the run ends within some depth, it ends the same within every larger one. -/
def Setting.Deepens {α : Type} (setting : Setting) (run : Calls → Run α) : Prop :=
  ∀ level deeper, level ≤ deeper → (run (setting.calls level)).Below (run (setting.calls deeper))

section Ends

variable {α β : Type} {setting : Setting} {run : Calls → Run α} {next : Calls → α → Run β}
variable {before middle after : State}

theorem Setting.Ends.unique (deepens : setting.Deepens run) {result other : Except Error α}
    (ends : setting.Ends run before result middle) (alsoEnds : setting.Ends run before other after) :
    result = other := by
  obtain ⟨level, ended⟩ := ends
  obtain ⟨further, alsoEnded⟩ := alsoEnds
  have deep := deepens _ _ (Nat.le_max_left level further) _ _ ended
  have alsoDeep := deepens _ _ (Nat.le_max_right level further) _ _ alsoEnded
  cases deep.symm.trans alsoDeep
  rfl

theorem Setting.Ends.bind (deepens : setting.Deepens run)
    (restDeepens : ∀ value, setting.Deepens fun calls => next calls value) {value : α}
    {result : Except Error β} (first : setting.Ends run before (.ok value) middle)
    (rest : setting.Ends (fun calls => next calls value) middle result after) :
    setting.Ends (fun calls => run calls >>= next calls) before result after := by
  obtain ⟨level, ended⟩ := first
  obtain ⟨further, restEnded⟩ := rest
  have deep := deepens _ _ (Nat.le_max_left level further) _ _ ended
  have restDeep := restDeepens value _ _ (Nat.le_max_right level further) _ _ restEnded
  exact ⟨max level further, (Run.bind_of_ok _ deep).trans restDeep⟩

theorem Setting.Fails.bind {error : Error} (fails : setting.Fails run before error) :
    setting.Fails (fun calls => run calls >>= next calls) before error := by
  obtain ⟨after, level, ended⟩ := fails
  exact ⟨after, level, Run.bind_of_error _ ended⟩

end Ends

section Deepens

variable (setting : Setting)

theorem Setting.invoke_deepens (procedure : Procedure) (scope : Scope) :
    setting.Deepens fun calls => calls.invoke procedure scope :=
  fun _ _ le => setting.invoke_deeper le procedure scope

theorem Setting.compiledForm_deepens (template : Template) :
    setting.Deepens fun calls => setting.compiledForm calls template :=
  fun _ _ le => Setting.compiledForm_related Run.below_lifts (setting.calls_below le) setting template

theorem Setting.render_deepens (template : Template) (data : Data) :
    setting.Deepens fun calls => setting.render calls template data :=
  fun _ _ le => Setting.render_related Run.below_lifts Scope.closed_true (setting.calls_below le)
    setting template data

theorem Script.run_deepens (script : Script) (scope : Scope) :
    setting.Deepens fun calls => script.run setting calls scope :=
  fun _ _ le => Script.run_related Run.below_lifts Scope.closed_true (setting.calls_below le) setting
    scope trivial script

theorem Op.run_deepens (op : Op) (scope : Scope) (machine : Machine) :
    setting.Deepens fun calls => op.run setting calls scope machine :=
  fun _ _ le => Op.run_related Run.below_lifts Scope.closed_true (setting.calls_below le) setting
    scope trivial machine op

theorem Code.runFrom_deepens (code : Code) (scope : Scope) (machine : Machine) :
    setting.Deepens fun calls => code.runFrom setting calls scope machine :=
  fun _ _ le => Code.runFrom_related Run.below_lifts Scope.closed_true (setting.calls_below le)
    setting scope trivial machine code

end Deepens

/-! ### Scripts that ask -/

/-- The script starts with something that it asks for, and goes on with the answer. -/
inductive Script.Asks (setting : Setting) (scope : Scope) :
    {α : Type} → Script → (Calls → Run α) → (Except Error α → Script) → Prop
  | filter (name : String) (value : Value) (args : List Value)
      (next : Except Error Value → Script) :
      Asks setting scope (.filter name value args next)
        (fun _ => setting.applyFilter name value args) next
  | block (name : String) (next : Except Error String → Script) :
      Asks setting scope (.block name next) (fun calls => scope.renderBlock calls name) next
  | super (next : Except Error String → Script) :
      Asks setting scope (.super next) (fun calls => scope.renderSuper calls) next
  | fetch (name : String) (eager : Bool) (next : Except Error Template → Script) :
      Asks setting scope (.fetch name eager next) (fun calls => setting.request calls name eager)
        next
  | compile (template : Template) (next : Except Error Unit → Script) :
      Asks setting scope (.compile template next)
        (fun calls => setting.compileTemplate calls template) next
  | render (template : Template) (data : Data) (next : Except Error String → Script) :
      Asks setting scope (.render template data next)
        (fun calls => setting.render calls template data) next

namespace Script.Asks

variable {setting : Setting} {scope : Scope} {α : Type} {script : Script} {ask : Calls → Run α}
variable {next : Except Error α → Script} (asks : script.Asks setting scope ask next)
include asks

theorem run_eq (calls : Calls) :
    script.run setting calls scope =
      (ask calls).attempt >>= fun result => (next result).run setting calls scope := by
  cases asks <;> rfl

theorem deepens : setting.Deepens ask := by
  intro level deeper le
  have lifts := Run.below_lifts
  have closed := Scope.closed_true
  have related := setting.calls_below le
  cases asks with
  | filter => exact lifts.refl _
  | block => exact Scope.renderBlock_related lifts closed related scope trivial _
  | super => exact Scope.renderSuper_related lifts closed related scope trivial
  | fetch => exact Setting.request_related lifts related setting _ _
  | compile => exact Setting.compileTemplate_related lifts related setting _
  | render => exact Setting.render_related lifts closed related setting _ _

/-- Once it has its answer, the script ends as the rest of it does. -/
theorem ends {before middle after : State} {answer : Except Error α}
    {result : Except Error String} (answered : setting.Ends ask before answer middle)
    (rest : setting.Ends (fun calls => (next answer).run setting calls scope) middle result after) :
    setting.Ends (fun calls => script.run setting calls scope) before result after := by
  simp only [asks.run_eq]
  obtain ⟨level, ended⟩ := answered
  have attempted : setting.Ends (fun calls => (ask calls).attempt) before (.ok answer) middle :=
    ⟨level, Run.attempt_of_some ended⟩
  refine attempted.bind ?_ (fun answer => (next answer).run_deepens setting scope) rest
  exact fun level deeper le => Run.below_lifts.attempt (asks.deepens level deeper le)

end Script.Asks

/-! ### Sites -/

/-- A place that rendering comes to. -/
inductive Site where
  /-- A procedure starts. -/
  | start (procedure : Procedure) (scope : Scope)
  /-- A script is at some point. -/
  | follow (script : Script) (scope : Scope)
  /-- Instructions are at some point. -/
  | interpret (code : Code) (machine : Machine) (scope : Scope)
  /-- A template is looked up. -/
  | fetch (name : String) (eager : Bool)
  /-- The rendering of a template starts. -/
  | render (template : Template) (data : Data)

/-- What starts at the site, or goes on there, fails with the error. -/
def Site.Fails (setting : Setting) (state : State) (error : Error) : Site → Prop
  | .start procedure scope => setting.Fails (fun calls => calls.invoke procedure scope) state error
  | .follow script scope => setting.Fails (fun calls => script.run setting calls scope) state error
  | .interpret code machine scope =>
    setting.Fails (fun calls => code.runFrom setting calls scope machine) state error
  | .fetch name eager => setting.Fails (fun calls => setting.fetch calls name eager) state error
  | .render template data =>
    setting.Fails (fun calls => setting.render calls template data) state error

/-- Whatever error it is given, a script fails with that error. -/
def Setting.PassesOn {α : Type} (setting : Setting) (scope : Scope)
    (next : Except Error α → Script) : Prop :=
  ∀ error state, (Site.follow (next (.error error)) scope).Fails setting state error

/-- From one site, in some state, rendering comes to another without leaving the template. A script
that waits for an answer passes on the errors that it may be given. -/
inductive Setting.ComesTo (setting : Setting) : Site × State → Site × State → Prop
  /-- A procedure comes to its script. -/
  | native {procedure : Procedure} {script : Script} (body : procedure.body = .native script)
      (scope : Scope) (state : State) :
      ComesTo setting (.start procedure scope, state) (.follow script scope, state)
  /-- A procedure comes to its instructions. -/
  | interpreted {procedure : Procedure} {code : Code} (body : procedure.body = .code code)
      (scope : Scope) (state : State) :
      ComesTo setting (.start procedure scope, state) (.interpret code .initial scope, state)
  /-- A script looks around and goes on. -/
  | look (next : View → Script) (scope : Scope) (state : State) :
      ComesTo setting (.follow (.look next) scope, state)
        (.follow (next (scope.view (setting.overview state))) scope, state)
  /-- A script has all templates forgotten and goes on. -/
  | clear (next : Script) (scope : Scope) (state : State) :
      ComesTo setting (.follow (.clear next) scope, state)
        (.follow next scope, state.forgetTemplates)
  /-- A script is given an answer, be it an error, and goes on. -/
  | answer {α : Type} {script : Script} {scope : Scope} {ask : Calls → Run α}
      {next : Except Error α → Script} {result : Except Error α} {before after : State}
      (asks : script.Asks setting scope ask next) (ends : setting.Ends ask before result after) :
      ComesTo setting (.follow script scope, before) (.follow (next result) scope, after)
  /-- A script comes to the most derived body of a block. -/
  | block {name : String} {next : Except Error String → Script} {scope : Scope} {block : Block}
      (found : scope.context.block name = .ok block) (passesOn : setting.PassesOn scope next)
      (state : State) :
      ComesTo setting (.follow (.block name next) scope, state)
        (.start block.procedure (.inside scope.context block), state)
  /-- A script comes to the body behind the current one. -/
  | super {next : Except Error String → Script} {scope : Scope} {block : Block}
      (found : scope.super = .ok block) (passesOn : setting.PassesOn scope next) (state : State) :
      ComesTo setting (.follow (.super next) scope, state)
        (.start block.procedure (.inside scope.context block), state)
  /-- A script comes to the lookup of a template that it requests. -/
  | fetch (name : String) (eager : Bool) {next : Except Error Template → Script} {scope : Scope}
      (passesOn : setting.PassesOn scope next) (state : State) :
      ComesTo setting (.follow (.fetch name eager next) scope, state)
        (.fetch name eager, state.note (.request name))
  /-- A script comes to the rendering of a template. -/
  | render (template : Template) (data : Data) {next : Except Error String → Script}
      {scope : Scope} (passesOn : setting.PassesOn scope next) (state : State) :
      ComesTo setting (.follow (.render template data next) scope, state)
        (.render template data, state)
  /-- An instruction has run. -/
  | step {op : Op} {machine further : Machine} {scope : Scope} {before after : State}
      (ends : setting.Ends (fun calls => op.run setting calls scope machine) before (.ok further)
        after) (rest : Code) :
      ComesTo setting (.interpret (op :: rest) machine scope, before)
        (.interpret rest further scope, after)
  /-- An instruction comes to the most derived body of a block. -/
  | callBlock {name : String} {scope : Scope} {block : Block}
      (found : scope.context.block name = .ok block) (rest : Code) (machine : Machine)
      (state : State) :
      ComesTo setting (.interpret (.block name :: rest) machine scope, state)
        (.start block.procedure (.inside scope.context block), state)
  /-- An instruction comes to the body behind the current one. -/
  | callSuper {scope : Scope} {block : Block} (found : scope.super = .ok block) (rest : Code)
      (machine : Machine) (state : State) :
      ComesTo setting (.interpret (.super :: rest) machine scope, state)
        (.start block.procedure (.inside scope.context block), state)

section Fails

variable {setting : Setting} {scope : Scope} {state : State} {error : Error}

theorem Script.Asks.fails {α : Type} {script : Script} {ask : Calls → Run α}
    {next : Except Error α → Script} (asks : script.Asks setting scope ask next)
    (passesOn : setting.PassesOn scope next) (fails : setting.Fails ask state error) :
    (Site.follow script scope).Fails setting state error := by
  obtain ⟨middle, ended⟩ := fails
  obtain ⟨after, rest⟩ := passesOn error middle
  exact ⟨after, asks.ends ended rest⟩

theorem Scope.renderBlock_fails {name : String} {block : Block}
    (found : scope.context.block name = .ok block)
    (fails : (Site.start block.procedure (.inside scope.context block)).Fails setting state error) :
    setting.Fails (fun calls => scope.renderBlock calls name) state error := by
  unfold Scope.renderBlock
  rw [found]
  exact fails

theorem Scope.renderSuper_fails {block : Block} (found : scope.super = .ok block)
    (fails : (Site.start block.procedure (.inside scope.context block)).Fails setting state error) :
    setting.Fails (fun calls => scope.renderSuper calls) state error := by
  unfold Scope.renderSuper
  rw [found]
  exact fails

/-- What fails at a site fails at the one that has come to it. -/
theorem Setting.ComesTo.fails {first last : Site × State} (comes : setting.ComesTo first last)
    (fails : last.1.Fails setting last.2 error) : first.1.Fails setting first.2 error := by
  cases comes with
  | native body =>
      obtain ⟨after, level, ended⟩ := fails
      refine ⟨after, level + 1, ?_⟩
      change Procedure.run setting (setting.calls level) _ _ _ = _
      rw [Procedure.run, body]
      exact ended
  | interpreted body =>
      obtain ⟨after, level, ended⟩ := fails
      refine ⟨after, level + 1, ?_⟩
      change Procedure.run setting (setting.calls level) _ _ _ = _
      rw [Procedure.run, body]
      exact Run.bind_of_error _ ended
  | look next scope state => exact fails
  | clear next scope state => exact fails
  | answer asks ends =>
      obtain ⟨after, rest⟩ := fails
      exact ⟨after, asks.ends ends rest⟩
  | block found passesOn =>
      exact (Script.Asks.block _ _).fails passesOn (Scope.renderBlock_fails found fails)
  | super found passesOn =>
      exact (Script.Asks.super _).fails passesOn (Scope.renderSuper_fails found fails)
  | fetch name eager passesOn => exact (Script.Asks.fetch name eager _).fails passesOn fails
  | render template data passesOn =>
      exact (Script.Asks.render template data _).fails passesOn fails
  | @step op machine _ scope _ _ ends rest =>
      obtain ⟨after, restEnds⟩ := fails
      exact ⟨after, ends.bind (op.run_deepens setting scope machine)
        (fun further => Code.runFrom_deepens setting rest scope further) restEnds⟩
  | callBlock found => exact (Scope.renderBlock_fails found fails).bind.bind
  | callSuper found => exact (Scope.renderSuper_fails found fails).bind.bind

/-- Over any number of sites, what fails at the last of them fails at the first. -/
theorem Setting.fails_of_comesTo {first last : Site × State}
    (path : Relation.ReflTransGen setting.ComesTo first last)
    (fails : last.1.Fails setting last.2 error) : first.1.Fails setting first.2 error := by
  induction path using Relation.ReflTransGen.head_induction_on with
  | refl => exact fails
  | head comes _ ih => exact comes.fails ih

end Fails

section Embed

variable {setting : Setting} {name : String} {scope : Scope} {state : State}

/-- A step that embeds a template comes to the lookup of it. -/
theorem Step.embed_fetch (data : Data) :
    setting.ComesTo (.follow (Step.script (.embed name data)) scope, state)
      (.fetch name false, state.note (.request name)) := by
  refine .fetch name false ?_ state
  intro error state
  exact ⟨state, 0, rfl⟩

/-- When it is given the template, it comes to the rendering of it. -/
theorem Step.embed_render {template : Template} {after : State}
    (given : setting.Ends (fun calls => setting.request calls name false) state (.ok template) after)
    (data : Data) :
    Relation.ReflTransGen setting.ComesTo
      (.follow (Step.script (.embed name data)) scope, state) (.render template data, after) := by
  refine .head (.answer (.fetch name false _) given) (.single (.render template data ?_ after))
  intro error state
  exact ⟨state, 0, rfl⟩

end Embed

end Stencil
