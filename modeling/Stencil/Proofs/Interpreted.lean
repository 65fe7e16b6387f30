import Stencil.Proofs.Agreement

set_option autoImplicit false

namespace Stencil

/-- Two procedures that are made of the same instructions. Their numbers may differ. -/
def Procedure.Alike (procedure other : Procedure) : Prop :=
  ∃ code, procedure.body = .code code ∧ other.body = .code code

/-- Each block has bodies made of the same instructions, in the same order. -/
def Blocks.Alike (blocks other : Blocks) : Prop :=
  ∀ name, List.Forall₂ Procedure.Alike (blocks.stack name) (other.stack name)

/-- Scopes that instructions cannot tell apart. -/
structure Scope.Alike (scope other : Scope) : Prop where
  bindings : scope.context.bindings = other.context.bindings
  blocks : scope.context.blocks.Alike other.context.blocks
  current : scope.current.map (fun block => (block.name, block.depth)) =
    other.current.map fun block => (block.name, block.depth)
  placed : scope.Placed
  alsoPlaced : other.Placed

theorem Scope.alike_outside {context other : Context} (bindings : context.bindings = other.bindings)
    (blocks : context.blocks.Alike other.blocks) : Scope.Alike (.outside context) (.outside other) :=
  ⟨bindings, blocks, rfl, Scope.Arises.placed (.outside context),
    Scope.Arises.placed (.outside other)⟩

theorem Scope.Alike.paired {scope other : Scope} (alike : scope.Alike other) :
    scope.Paired Procedure.Alike other :=
  ⟨alike.bindings, alike.blocks, alike.current, alike.placed, alike.alsoPlaced⟩

theorem Scope.Paired.alike {scope other : Scope} (paired : scope.Paired Procedure.Alike other) :
    scope.Alike other :=
  ⟨paired.bindings, paired.blocks, paired.current, paired.placed, paired.alsoPlaced⟩

/-- Calls under which procedures that are alike agree. -/
def Calls.InvokeAlike (calls other : Calls) : Prop :=
  ∀ procedure body scope inner, Procedure.Alike procedure body → Scope.Alike scope inner →
    Run.Agree Eq (calls.invoke procedure scope) (other.invoke body inner)

theorem Calls.InvokeAlike.paired {calls other : Calls} (invoke : calls.InvokeAlike other) :
    calls.InvokePaired Procedure.Alike other :=
  fun procedure body scope inner same paired => invoke procedure body scope inner same paired.alike

section Match

variable (setting reset : Setting) (calls other : Calls) (scope inner : Scope)

/-- What an instruction looks at is the same for two runs of it: a variable, a filter, or what a block
or `super` puts out. -/
def Op.Matches : Op → Prop
  | .text _ | .const _ | .emit => True
  | .lookup name => scope.context.lookup name = inner.context.lookup name
  | .filter name _ =>
    setting.environment.filters.get? name = reset.environment.filters.get? name
  | .block name => Run.Agree Eq (scope.renderBlock calls name) (inner.renderBlock other name)
  | .super => Run.Agree Eq (scope.renderSuper calls) (inner.renderSuper other)

variable {setting reset calls other scope inner}

theorem Op.Matches.run_agree {op : Op} (same : op.Matches setting reset calls other scope inner)
    (machine : Machine) :
    Run.Agree Eq (op.run setting calls scope machine) (op.run reset other inner machine) := by
  cases op with
  | text | const => exact Run.agree_pure rfl
  | lookup name => exact Run.agree_pure (congrArg machine.push same)
  | filter name count =>
      apply (Run.agree_same (machine.popMany count)).bind_eq
      intro ⟨args, machine⟩
      apply (Run.agree_same machine.pop).bind_eq
      intro ⟨value, machine⟩
      apply (Setting.applyFilter_agree_of_get? same value args).bind_eq
      intro result
      exact Run.agree_pure rfl
  | emit =>
      apply (Run.agree_same machine.pop).bind_eq
      intro ⟨value, machine⟩
      exact Run.agree_pure rfl
  | block | super =>
      apply Run.Agree.bind_eq same
      intro output
      exact Run.agree_pure rfl

theorem Code.runFrom_agree {code : Code}
    (same : ∀ op ∈ code, op.Matches setting reset calls other scope inner) (machine : Machine) :
    Run.Agree Eq (code.runFrom setting calls scope machine)
      (code.runFrom reset other inner machine) := by
  induction code generalizing machine with
  | nil => exact Run.agree_pure rfl
  | cons op rest ih =>
      apply ((same op List.mem_cons_self).run_agree machine).bind_eq
      intro machine
      exact ih (fun other later => same other (List.mem_cons_of_mem op later)) machine

theorem Code.run_agree_of_matches {code : Code}
    (same : ∀ op ∈ code, op.Matches setting reset calls other scope inner) :
    Run.Agree Eq (code.run setting calls scope) (code.run reset other inner) := by
  apply (Code.runFrom_agree same .initial).bind_eq
  intro machine
  exact Run.agree_pure rfl

end Match

section Code

variable {setting reset : Setting} (filters : setting.environment.filters = reset.environment.filters)
variable {calls other : Calls} (invoke : calls.InvokeAlike other)
variable {scope inner : Scope} (alike : scope.Alike inner)

include invoke alike

theorem Scope.renderBlock_agree (name : String) :
    Run.Agree Eq (scope.renderBlock calls name) (inner.renderBlock other name) :=
  alike.paired.renderBlock_agree invoke.paired name

theorem Scope.renderSuper_agree :
    Run.Agree Eq (scope.renderSuper calls) (inner.renderSuper other) :=
  alike.paired.renderSuper_agree invoke.paired

include filters

theorem Op.matches_of_alike (op : Op) : op.Matches setting reset calls other scope inner := by
  cases op with
  | text | const | emit => trivial
  | lookup name =>
      change scope.context.lookup name = inner.context.lookup name
      unfold Context.lookup
      rw [alike.bindings]
  | filter name count => exact congrArg (·.get? name) filters
  | block name => exact Scope.renderBlock_agree invoke alike name
  | super => exact Scope.renderSuper_agree invoke alike

theorem Code.run_agree (code : Code) :
    Run.Agree Eq (code.run setting calls scope) (code.run reset other inner) :=
  Code.run_agree_of_matches fun op _ => Op.matches_of_alike filters invoke alike op

theorem Procedure.run_agree {procedure body : Procedure} (same : procedure.Alike body) :
    Run.Agree Eq (procedure.run setting calls scope) (body.run reset other inner) := by
  obtain ⟨code, interpreted, alsoInterpreted⟩ := same
  simp only [Procedure.run, interpreted, alsoInterpreted]
  exact Code.run_agree filters invoke alike code

end Code

/-- With the same filters, procedures made of the same instructions agree on every level. -/
theorem Setting.invoke_agree {setting reset : Setting}
    (filters : setting.environment.filters = reset.environment.filters) (level : Nat) :
    (setting.calls level).InvokeAlike (reset.calls level) := by
  induction level with
  | zero =>
      intro _ _ _ _ _ _
      exact Run.agree_tooDeep
  | succ level ih =>
      intro procedure body scope inner same alike
      exact Procedure.run_agree filters ih alike same

end Stencil
