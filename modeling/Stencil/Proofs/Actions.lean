import Stencil.Engine.Basic
import Stencil.Proofs.Agreement
import Stencil.Render.Step

set_option autoImplicit false

namespace Stencil

/-! ### Scripts one after the other -/

/-- Who passes errors on need not look at what came out. -/
theorem Run.attempt_passing {α β : Type} (run : Run α) {next : Except Error α → Run β}
    (passes : ∀ error, next (.error error) = .fail error) :
    run.attempt >>= next = run >>= fun value => next (.ok value) := by
  funext before
  cases reached : run before with
  | none => rw [Run.bind_of_none _ (Run.attempt_of_none reached), Run.bind_of_none _ reached]
  | some outcome =>
      obtain ⟨result, after⟩ := outcome
      rw [Run.bind_of_ok _ (Run.attempt_of_some reached)]
      cases result with
      | error error => rw [passes, Run.bind_of_error _ reached, Run.fail]
      | ok value => rw [Run.bind_of_ok _ reached]

theorem Run.attempt_ofExcept {α : Type} (run : Run α) : run.attempt >>= Run.ofExcept = run :=
  (Run.attempt_passing run fun _ => rfl).trans (bind_pure run)

/-- What comes out of two runs is what comes out of the second, when the first cannot fail. -/
theorem Run.attempt_bind {α β : Type} {run : Run α} (next : α → Run β)
    (sound : ∀ before error after, run before ≠ some (.error error, after)) :
    (run >>= next).attempt = run >>= fun value => (next value).attempt := by
  funext before
  cases reached : run before with
  | none =>
      rw [Run.bind_of_none _ reached]
      exact Run.attempt_of_none (Run.bind_of_none _ reached)
  | some outcome =>
      obtain ⟨result, after⟩ := outcome
      cases result with
      | error error => exact absurd reached (sound before error after)
      | ok value =>
          rw [Run.bind_of_ok _ reached]
          unfold Run.attempt
          rw [Run.bind_of_ok _ reached]

theorem Run.attempt_sound {α : Type} (run : Run α) (before : State) (error : Error)
    (after : State) : run.attempt before ≠ some (.error error, after) := by
  intro failed
  obtain ⟨outcome, -, same⟩ := Option.map_eq_some_iff.1 failed
  cases same

section Script

variable (setting : Setting) (calls : Calls) (scope : Scope)

/-- A script that asks for something and goes on with the answer. -/
theorem Script.run_bind_ask {α : Type} {ask : Run α} {rest : α → Script}
    {next : Except Error String → Script}
    (sound : ∀ before error after, ask before ≠ some (.error error, after))
    (goesOn : ∀ value, ((rest value).bind next).run setting calls scope =
      ((rest value).run setting calls scope).attempt >>= fun result =>
        (next result).run setting calls scope) :
    (ask >>= fun value => ((rest value).bind next).run setting calls scope) =
      (ask >>= fun value => (rest value).run setting calls scope).attempt >>= fun result =>
        (next result).run setting calls scope := by
  rw [Run.attempt_bind _ sound, bind_assoc]
  exact congrArg (ask >>= ·) (funext goesOn)

theorem Script.run_bind (script : Script) (next : Except Error String → Script) :
    (script.bind next).run setting calls scope =
      (script.run setting calls scope).attempt >>= fun result =>
        (next result).run setting calls scope := by
  induction script with
  | done result => rfl
  | look rest ih =>
      apply run_bind_ask setting calls scope _ fun state => ih _
      intro _ _ _ failed
      cases failed
  | clear rest ih =>
      apply run_bind_ask setting calls scope _ fun _ => ih
      intro _ _ _ failed
      cases failed
  | filter | block | super | fetch | compile | render =>
      rename_i ih
      exact run_bind_ask setting calls scope (Run.attempt_sound _) ih

theorem Script.run_append (first second : Script) :
    (first.append second).run setting calls scope = (do
      let before ← first.run setting calls scope
      let after ← second.run setting calls scope
      return before ++ after) := by
  unfold append
  rw [run_bind]
  refine Eq.trans (Run.attempt_passing _ fun error => rfl) ?_
  refine congrArg (first.run setting calls scope >>= ·) (funext fun before => ?_)
  change (second.bind _).run setting calls scope = _
  rw [run_bind]
  exact Run.attempt_passing _ fun error => rfl

end Script

/-! ### What actions do -/

def Action.run (setting : Setting) (calls : Calls) (scope : Scope) : Action → Run String
  | .text s => return s
  | .lookup name => return (scope.context.lookup name).output
  | .block name => scope.renderBlock calls name
  | .super => scope.renderSuper calls
  | .filter name subject args => do
    let value ← setting.applyFilter name (scope.context.lookup subject) args
    return value.output

def Action.runAll (setting : Setting) (calls : Calls) (scope : Scope) : List Action → Run String
  | [] => return ""
  | action :: rest => do
    let before ← action.run setting calls scope
    let after ← runAll setting calls scope rest
    return before ++ after

def Action.native (actions : List Action) : Body := .native (Step.scripts (actions.map .act))

def Action.interpreted (actions : List Action) : Body := .code (actions.flatMap Action.code)

section Action

variable (setting : Setting) (calls : Calls) (scope : Scope)

theorem Action.run_script (action : Action) :
    action.script.run setting calls scope = action.run setting calls scope := by
  cases action with
  | text s => rfl
  | lookup name => rfl
  | block name => exact Run.attempt_ofExcept (scope.renderBlock calls name)
  | super => exact Run.attempt_ofExcept (scope.renderSuper calls)
  | filter name subject args => exact Run.attempt_passing _ fun error => rfl

theorem Action.run_scripts (actions : List Action) :
    (Step.scripts (actions.map .act)).run setting calls scope =
      Action.runAll setting calls scope actions := by
  induction actions with
  | nil => rfl
  | cons action rest ih =>
      change (action.script.append (Step.scripts (rest.map .act))).run setting calls scope = _
      rw [Script.run_append, Action.run_script, ih]
      rfl

theorem Code.runFrom_append (first second : Code) (machine : Machine) :
    Code.runFrom setting calls scope machine (first ++ second) = (do
      let machine ← Code.runFrom setting calls scope machine first
      Code.runFrom setting calls scope machine second) := by
  induction first generalizing machine with
  | nil => rfl
  | cons op rest ih =>
      change (op.run setting calls scope machine >>= _) = (op.run setting calls scope machine >>= _) >>= _
      rw [bind_assoc]
      exact congrArg (_ >>= ·) (funext ih)

/-- Constants are pushed one by one, so that the last of them lies on top. -/
theorem Code.runFrom_consts (args : List Value) (stack : List Value) (output : String) :
    Code.runFrom setting calls scope ⟨stack, output⟩ (args.map .const) =
      return ⟨args.reverse ++ stack, output⟩ := by
  induction args generalizing stack with
  | nil => rfl
  | cons arg rest ih =>
      change Code.runFrom setting calls scope ⟨arg :: stack, output⟩ (rest.map .const) = _
      rw [ih, List.reverse_cons, List.append_assoc, List.singleton_append]

theorem Machine.popMany_reverse (args stack : List Value) (output : String) :
    (Machine.mk (args.reverse ++ stack) output).popMany args.length =
      .ok (args, ⟨stack, output⟩) := by
  have enough : ¬ (args.reverse ++ stack).length < args.length := by
    rw [List.length_append, List.length_reverse]
    omega
  unfold popMany
  rw [if_neg enough, List.take_left' (List.length_reverse), List.drop_left' (List.length_reverse),
    List.reverse_reverse]

/-- A filter gets the arguments in the order in which they were pushed. -/
theorem Op.run_filter (name : String) (value : Value) (args stack : List Value) (output : String) :
    (Op.filter name args.length).run setting calls scope ⟨args.reverse ++ value :: stack, output⟩ =
      (do
        let result ← setting.applyFilter name value args
        return ⟨result :: stack, output⟩) := by
  simp only [Op.run, Machine.popMany_reverse]
  rfl

theorem Code.runFrom_emit (value : Value) (stack : List Value) (output : String) (rest : Code) :
    Code.runFrom setting calls scope ⟨value :: stack, output⟩ (.emit :: rest) =
      Code.runFrom setting calls scope ⟨stack, output ++ value.output⟩ rest :=
  congrArg (Code.runFrom setting calls scope · rest) (Machine.emit_eq ⟨stack, output⟩ value)

/-- The instructions of an action need nothing on the stack and leave nothing there. -/
theorem Action.runFrom_code (action : Action) (output : String) :
    Code.runFrom setting calls scope ⟨[], output⟩ action.code = (do
      let more ← action.run setting calls scope
      return ⟨[], output ++ more⟩) := by
  cases action with
  | text s => rfl
  | lookup name => exact Code.runFrom_emit setting calls scope (scope.context.lookup name) [] output []
  | block name =>
      change (Op.block name).run setting calls scope ⟨[], output⟩ >>= Pure.pure = _
      rw [bind_pure]
      rfl
  | super =>
      change Op.super.run setting calls scope ⟨[], output⟩ >>= Pure.pure = _
      rw [bind_pure]
      rfl
  | filter name subject args =>
      change Code.runFrom setting calls scope ⟨[scope.context.lookup subject], output⟩
        (args.map .const ++ [.filter name args.length, .emit]) = _
      rw [Code.runFrom_append, Code.runFrom_consts, pure_bind]
      change (Op.filter name args.length).run setting calls scope
        ⟨args.reverse ++ scope.context.lookup subject :: [], output⟩ >>= _ = _
      rw [Op.run_filter, bind_assoc]
      change _ = (_ >>= _) >>= _
      rw [bind_assoc]
      exact congrArg _ (funext fun result =>
        Code.runFrom_emit setting calls scope result [] output [])

theorem Action.runFrom_flatMap_code (actions : List Action) (output : String) :
    Code.runFrom setting calls scope ⟨[], output⟩ (actions.flatMap Action.code) = (do
      let more ← Action.runAll setting calls scope actions
      return ⟨[], output ++ more⟩) := by
  induction actions generalizing output with
  | nil =>
      change Pure.pure (Machine.mk [] output) = Pure.pure (Machine.mk [] (output ++ ""))
      rw [String.append_empty]
  | cons action rest ih =>
      rw [List.flatMap_cons, Code.runFrom_append, Action.runFrom_code, bind_assoc]
      change _ = (_ >>= _) >>= _
      rw [bind_assoc]
      refine congrArg (action.run setting calls scope >>= ·) (funext fun before => ?_)
      change Code.runFrom setting calls scope ⟨[], output ++ before⟩ _ = (_ >>= _) >>= _
      rw [ih, bind_assoc]
      refine congrArg (Action.runAll setting calls scope rest >>= ·) (funext fun after => ?_)
      change Pure.pure (Machine.mk [] (output ++ before ++ after)) =
        Pure.pure (Machine.mk [] (output ++ (before ++ after)))
      rw [String.append_assoc]

end Action

/-! ### Procedures that perform actions -/

/-- The procedure performs the actions, in one form or the other. -/
def Procedure.Performs (procedure : Procedure) (actions : List Action) : Prop :=
  procedure.body = Action.native actions ∨ procedure.body = Action.interpreted actions

/-- Procedures that perform the same actions, whatever their forms. -/
def Procedure.Twin (procedure other : Procedure) : Prop :=
  ∃ actions, procedure.Performs actions ∧ other.Performs actions

/-- Neither form does anything but perform the actions. -/
theorem Procedure.Performs.run_eq {procedure : Procedure} {actions : List Action}
    (performs : procedure.Performs actions) (setting : Setting) (calls : Calls) (scope : Scope) :
    procedure.run setting calls scope = Action.runAll setting calls scope actions := by
  unfold Procedure.run
  rcases performs with native | interpreted
  · rw [native]
    exact Action.run_scripts setting calls scope actions
  · rw [interpreted]
    change Code.run setting calls scope (actions.flatMap Action.code) = _
    unfold Code.run Machine.initial
    rw [Action.runFrom_flatMap_code, bind_assoc]
    change (Action.runAll setting calls scope actions >>= fun output => return "" ++ output) = _
    simp only [String.empty_append]
    exact bind_pure _

section Twin

variable {setting : Setting} {calls other : Calls} {scope inner : Scope}
variable (paired : scope.Paired Procedure.Twin inner)
variable (invoke : calls.InvokePaired Procedure.Twin other)

include paired invoke

theorem Action.run_agree (action : Action) :
    Run.Agree Eq (action.run setting calls scope) (action.run setting other inner) := by
  have lookup : scope.context.lookup = inner.context.lookup := by
    funext name
    unfold Context.lookup
    rw [paired.bindings]
  cases action with
  | text s => exact Run.agree_pure rfl
  | lookup name =>
      apply Run.agree_pure
      rw [lookup]
  | block name => exact paired.renderBlock_agree invoke name
  | super => exact paired.renderSuper_agree invoke
  | filter name subject args =>
      change Run.Agree Eq (setting.applyFilter name _ args >>= _) (setting.applyFilter name _ args >>= _)
      rw [lookup]
      apply (Setting.applyFilter_agree rfl name _ args).bind_eq
      intro value
      exact Run.agree_pure rfl

theorem Action.runAll_agree (actions : List Action) :
    Run.Agree Eq (Action.runAll setting calls scope actions)
      (Action.runAll setting other inner actions) := by
  induction actions with
  | nil => exact Run.agree_pure rfl
  | cons action rest ih =>
      apply (action.run_agree paired invoke).bind_eq
      intro before
      apply ih.bind_eq
      intro after
      exact Run.agree_pure rfl

theorem Procedure.Twin.run_agree {procedure body : Procedure} (twin : procedure.Twin body) :
    Run.Agree Eq (procedure.run setting calls scope) (body.run setting other inner) := by
  obtain ⟨actions, performs, alsoPerforms⟩ := twin
  rw [performs.run_eq, alsoPerforms.run_eq]
  exact Action.runAll_agree paired invoke actions

end Twin

/-- Twins agree on every level, where the bodies of all blocks are twins. -/
theorem Setting.invoke_twins (setting : Setting) (level : Nat) :
    (setting.calls level).InvokePaired Procedure.Twin (setting.calls level) := by
  induction level with
  | zero =>
      intro _ _ _ _ _ _
      exact Run.agree_tooDeep
  | succ level ih =>
      intro procedure body scope inner twin paired
      exact twin.run_agree paired ih

/-- Invokes the root of a form in the context of data, outside of any block. -/
def Compiled.invoke (setting : Setting) (calls : Calls) (name : Option String) (data : Data)
    (form : Compiled) : Run String := do
  let context ← Run.ofExcept (Context.ofData name data form.blocks)
  form.root.run setting calls (.outside context)

def Engine.renderForm (engine : Engine) (limit : Nat) (form : Compiled) (name : Option String)
    (data : Data) : Option (Except Error String × Engine) :=
  engine.perform limit fun setting calls => form.invoke setting calls name data

/-- Two forms whose roots, and whose bodies one by one, perform the same actions. -/
structure Compiled.Twin (form other : Compiled) : Prop where
  root : form.root.Twin other.root
  blocks : form.blocks.Paired Procedure.Twin other.blocks

theorem Compiled.Twin.ofData {form other : Compiled} (twin : form.Twin other)
    (name : Option String) (data : Data) :
    Run.SameResult (fun context context' => Scope.Paired Procedure.Twin (.outside context)
      (.outside context')) (Context.ofData name data form.blocks)
      (Context.ofData name data other.blocks) := by
  apply (Run.sameResult_refl data.toValue).bind
  rintro value _ rfl
  apply (Run.sameResult_refl value.toVariables).bind
  rintro bindings _ rfl
  exact Scope.paired_outside rfl twin.blocks

theorem Compiled.Twin.invoke_agree {form other : Compiled} (twin : form.Twin other)
    (setting : Setting) (level : Nat) (name : Option String) (data : Data) :
    Run.Agree Eq (form.invoke setting (setting.calls level) name data)
      (other.invoke setting (setting.calls level) name data) := by
  apply (Run.agree_ofExcept (twin.ofData name data)).bind
  intro context context' paired
  exact twin.root.run_agree paired (setting.invoke_twins level)

/-- Procedures that perform the same actions natively and by instructions can stand for each other
anywhere, in the root and among the bodies of blocks. A render that goes through one of them ends
where it ends with the other, with the same output or the same error, and after the same calls of
filters. -/
theorem twins_interchangeable (engine : Engine) (limit : Nat) {form other : Compiled}
    (twin : form.Twin other) (name : Option String) (data : Data) :
    (engine.renderForm limit form name data).map
        (fun outcome => (outcome.1, outcome.2.state.events)) =
      (engine.renderForm limit other name data).map
        fun outcome => (outcome.1, outcome.2.state.events) := by
  change Option.map _ (Option.map _ (form.invoke engine.setting (engine.setting.calls limit) name data
    engine.state)) = Option.map _ (Option.map _ (other.invoke engine.setting
      (engine.setting.calls limit) name data engine.state))
  rcases twin.invoke_agree engine.setting limit name data engine.state engine.state with
    ⟨endless, alsoEndless⟩ |
    ⟨result, after, reply, final, events, ended, alsoEnded, same, grown, alsoGrown⟩
  · rw [endless, alsoEndless]
  · obtain ⟨_, rfl⟩ := grown
    obtain ⟨_, rfl⟩ := alsoGrown
    rw [ended, alsoEnded, same.eq]
    rfl

/-- A root and the last of two bodies trade their scripts for instructions. The filter is called
once, with both arguments in order, and what it answers stands before the output of the block. -/
theorem twins_interchangeable_layered :
    let gather : Filter := ⟨fun value args => .ok (.array (value :: args))⟩
    let engine := Engine.new ⟨[], none, Dict.ofList [("gather", gather)], .assumeStale⟩ .empty
    let page : List Action := [.filter "gather" "x" [.bool true, .null], .block "body"]
    let outer : List Action := [.text "<", .super, .text ">"]
    let inner : List Action := [.lookup "x", .lookup "missing"]
    let form : Compiled := ⟨⟨0, Action.native page⟩,
      Dict.ofList [("body", [⟨1, Action.native outer⟩, ⟨2, Action.native inner⟩])]⟩
    let other : Compiled := ⟨⟨3, Action.interpreted page⟩,
      Dict.ofList [("body", [⟨1, Action.native outer⟩, ⟨4, Action.interpreted inner⟩])]⟩
    let data : Data := .ok (.object (Dict.ofList [("x", .string "y")]))
    let calls : List Event := [.filter "gather" (.string "y") [.bool true, .null]]
    form.Twin other ∧
    (engine.renderForm 3 form none data).map (fun outcome => (outcome.1, outcome.2.state.events)) =
      some (.ok "[\x22y\x22,true,null]<y>", calls) ∧
    (engine.renderForm 3 other none data).map (fun outcome => (outcome.1, outcome.2.state.events)) =
      some (.ok "[\x22y\x22,true,null]<y>", calls) := by
  intro gather engine page outer inner form other data calls
  have twin : form.Twin other := by
    refine ⟨⟨page, .inl rfl, .inr rfl⟩, ?_⟩
    intro name
    by_cases body : name = "body"
    · subst body
      exact .cons ⟨outer, .inl rfl, .inl rfl⟩ (.cons ⟨inner, .inl rfl, .inr rfl⟩ .nil)
    · have absent : form.blocks.stack name = [] ∧ other.blocks.stack name = [] := by
        constructor <;>
        · change ((Dict.insert ∅ "body" _).get? name).getD [] = []
          rw [Dict.get?_insert, if_neg body]
          rfl
      rw [absent.1, absent.2]
      exact .nil
  have rendered : (engine.renderForm 3 form none data).map
      (fun outcome => (outcome.1, outcome.2.state.events)) =
        some (.ok "[\x22y\x22,true,null]<y>", calls) := by rfl
  refine ⟨twin, rendered, ?_⟩
  rw [← twins_interchangeable engine 3 twin none data, rendered]

end Stencil
