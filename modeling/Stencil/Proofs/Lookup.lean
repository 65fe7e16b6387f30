import Stencil.Proofs.Interpreted

set_option autoImplicit false

namespace Stencil

/-- What the loaders have for a name, the first of them that has something counting. -/
def Loader.find (sources : Sources) (name : String) : List Loader → Except Error Source
  | [] => .error (.templateNotFound name)
  | loader :: rest =>
    match loader.get sources name with
    | .error error => .error error
    | .ok (some source) => .ok source
    | .ok none => find sources name rest

/-- How many loaders are asked for a name: all up to the first that has something or fails. -/
def Loader.asked (sources : Sources) (name : String) : List Loader → Nat
  | [] => 0
  | loader :: rest =>
    match loader.get sources name with
    | .ok none => asked sources name rest + 1
    | _ => 1

/-- The calls that ask a number of loaders for a name, the first of which is at the given place. -/
def Loader.requests (place count : Nat) (name : String) : List Event :=
  (List.range' place count).map fun place => .load place name

/-- The state once further calls are on record. -/
def State.log (state : State) (made : List Event) : State :=
  { state with record := made.reverse ++ state.record }

/-- What the answer of a compiler amounts to: its module sorted into a form, or a compile error. -/
def Compiled.ofAnswer (answer : Except Error Module) : Except Error Compiled :=
  answer.mapError Error.asCompileError >>= Module.compiled

def Compiled.render (calls : Calls) (name : String) (value : Value) (form : Compiled) :
    Run String :=
  Run.blame name do
    let bindings ← Run.ofExcept value.toVariables
    calls.invoke form.root (.outside ⟨some name, bindings, form.blocks⟩)

def Setting.requests (setting : Setting) (name : String) : List Event :=
  Loader.requests 0 (Loader.asked setting.sources name setting.environment.loaders) name

/-- The calls that find out whether a template is current. -/
def Setting.checks (setting : Setting) (state : State) (template : Template) : List Event :=
  template.source.freshness.toList.map fun freshness =>
    .check freshness (freshness.holds setting.sources state.checked)

/-- Rendering the template ends with the result, within some depth. -/
def Setting.RendersTo (setting : Setting) (state : State) (template : Template) (data : Data)
    (result : Except Error String) : Prop :=
  ∃ level after, setting.render (setting.calls level) template data state = some (result, after)

theorem State.log_log (state : State) (made more : List Event) :
    (state.log made).log more = state.log (made ++ more) := by
  simp only [log, List.reverse_append, List.append_assoc]

theorem State.events_log (state : State) (made : List Event) :
    (state.log made).events = state.events ++ made := by
  simp only [events, log, List.reverse_append, List.reverse_reverse]

theorem State.extends_log (state : State) (made : List Event) :
    state.Extends (state.log made) made.reverse := ⟨state.procedures, rfl⟩

theorem Setting.mem_requests {setting : Setting} {name : String} {event : Event}
    (member : event ∈ setting.requests name) : ∃ place, event = .load place name := by
  obtain ⟨place, -, rfl⟩ := List.mem_map.1 member
  exact ⟨place, rfl⟩

theorem Setting.mem_checks {setting : Setting} {state : State} {template : Template}
    {event : Event} (member : event ∈ setting.checks state template) :
    ∃ freshness fresh, event = .check freshness fresh := by
  obtain ⟨freshness, -, rfl⟩ := List.mem_map.1 member
  exact ⟨freshness, _, rfl⟩

theorem State.keepCompiled_only (state : State) (template : Nat) (form : Compiled) :
    ∃ compiled, state.keepCompiled template form = { state with compiled } := by
  unfold keepCompiled
  split <;> exact ⟨_, rfl⟩

theorem Setting.resolveFrom_eq (setting : Setting) (place : Nat) (name : String)
    (loaders : List Loader) (state : State) :
    setting.resolveFrom place name loaders state =
      some (Loader.find setting.sources name loaders,
        state.log (Loader.requests place (Loader.asked setting.sources name loaders) name)) := by
  induction loaders generalizing place state with
  | nil => rfl
  | cons loader rest ih =>
      rw [Setting.resolveFrom, Loader.find, Loader.asked]
      cases found : loader.get setting.sources name with
      | error error => rfl
      | ok answer =>
          cases answer with
          | some source => rfl
          | none =>
              refine (ih (place + 1) (state.note (.load place name))).trans ?_
              change some (_, (state.log [.load place name]).log _) = _
              rw [State.log_log]
              rfl

/-- A call of the compiler is on record before what it makes, and its answer behind that. -/
theorem Setting.callCompiler_eq (calls : Calls) (compiler : Compiler) (template : Option Nat)
    (name text : String) (state : State) :
    Setting.callCompiler calls compiler template name text state =
      (calls.compile compiler name text (state.note (.compile template name text))).map
        fun outcome => (outcome.1, outcome.2.note (.answer template outcome.1)) := by
  change (Run.attempt (calls.compile compiler name text) >>= _) (state.note _) = _
  cases answered : calls.compile compiler name text (state.note (.compile template name text)) with
  | none => exact Run.bind_of_none _ (Run.attempt_of_none answered)
  | some outcome => exact Run.bind_of_ok _ (Run.attempt_of_some answered)

theorem Setting.compile_of_some {setting : Setting} {compiler : Compiler}
    (known : setting.environment.compiler = some compiler) (calls : Calls) (template : Template)
    (state : State) :
    setting.compile calls template state =
      (calls.compile compiler template.name template.source.text
        (state.note (.compile (some template.id) template.name template.source.text))).map
        fun outcome => (Compiled.ofAnswer outcome.1,
          outcome.2.note (.answer (some template.id) outcome.1)) := by
  have called := Setting.callCompiler_eq calls compiler (some template.id) template.name
    template.source.text state
  unfold Setting.compile
  rw [known]
  cases answered : calls.compile compiler template.name template.source.text
      (state.note (.compile (some template.id) template.name template.source.text)) with
  | none =>
      rw [answered] at called
      exact Run.bind_of_none _ (Run.attempt_of_none called)
  | some outcome =>
      obtain ⟨answer, after⟩ := outcome
      rw [answered] at called
      refine (Run.bind_of_ok _ (Run.attempt_of_some called)).trans ?_
      cases answer with
      | error error => rfl
      | ok m => rfl

theorem Setting.compiledForm_of_some {state : State} {template : Template} {form : Compiled}
    (kept : state.compiledForm? template.id = some form) (setting : Setting) (calls : Calls) :
    setting.compiledForm calls template state = some (.ok form, state) := by
  have read : Run.state state = some (.ok state, state) := rfl
  refine (Run.bind_of_ok _ read).trans ?_
  simp only [kept]
  rfl

/-- A form is kept once it is found. Should the compilation itself have found one already, that one
stays. -/
theorem Setting.compiledForm_of_none {state : State} {template : Template}
    (unknown : state.compiledForm? template.id = none) (setting : Setting) (calls : Calls) :
    setting.compiledForm calls template state =
      (setting.compile calls template state).map fun outcome =>
        match outcome with
        | (.error error, after) => (.error error, after)
        | (.ok form, after) =>
          (.ok ((after.compiledForm? template.id).getD form), after.keepCompiled template.id form) := by
  have read : Run.state state = some (.ok state, state) := rfl
  refine (Run.bind_of_ok _ read).trans ?_
  simp only [unknown]
  cases compiled : setting.compile calls template state with
  | none => exact Run.bind_of_none _ compiled
  | some outcome =>
      obtain ⟨result, after⟩ := outcome
      cases result with
      | error error => exact Run.bind_of_error _ compiled
      | ok form =>
          refine (Run.bind_of_ok _ compiled).trans ?_
          change some (Except.ok (((after.keepCompiled template.id form).compiledForm?
            template.id).getD form), after.keepCompiled template.id form) = _
          rw [State.compiledForm?_keepCompiled, if_pos rfl]
          rfl

/-- The state once the compiler has answered for a template: the answer is on record, and its form is
kept unless there is one already. -/
def State.settle (state : State) (template : Nat) (answer : Except Error Module) : State :=
  let noted := state.note (.answer (some template) answer)
  match Compiled.ofAnswer answer with
  | .error _ => noted
  | .ok form => noted.keepCompiled template form

theorem State.settle_only (state : State) (template : Nat) (answer : Except Error Module) :
    ∃ compiled, state.settle template answer =
      { state.note (.answer (some template) answer) with compiled } := by
  unfold settle
  cases Compiled.ofAnswer answer with
  | error error => exact ⟨_, rfl⟩
  | ok form => exact State.keepCompiled_only _ template form

/-- A template that is not compiled is compiled by the compiler, whose answer settles it. -/
theorem Setting.compiledForm_eq {setting : Setting} {compiler : Compiler} {template : Template}
    {state : State} (known : setting.environment.compiler = some compiler)
    (unknown : state.compiledForm? template.id = none) (calls : Calls) :
    setting.compiledForm calls template state =
      (calls.compile compiler template.name template.source.text
        (state.note (.compile (some template.id) template.name template.source.text))).map
        fun outcome =>
          ((Compiled.ofAnswer outcome.1).map (outcome.2.compiledForm? template.id).getD,
            outcome.2.settle template.id outcome.1) := by
  rw [Setting.compiledForm_of_none unknown, Setting.compile_of_some known, Option.map_map]
  refine congrArg₂ Option.map (funext ?_) rfl
  rintro ⟨answer, after⟩
  simp only [Function.comp_apply, State.settle]
  cases Compiled.ofAnswer answer <;> rfl

/-- The form that is found is the one that is kept. -/
theorem Setting.kept_of_compiledForm {setting : Setting} {calls : Calls} {template : Template}
    {state after : State} {form : Compiled}
    (found : setting.compiledForm calls template state = some (.ok form, after)) :
    after.compiledForm? template.id = some form := by
  cases known : state.compiledForm? template.id with
  | some old =>
      rw [Setting.compiledForm_of_some known] at found
      cases found
      exact known
  | none =>
      rw [Setting.compiledForm_of_none known] at found
      obtain ⟨⟨result, middle⟩, -, same⟩ := Option.map_eq_some_iff.1 found
      cases result with
      | error error => cases same
      | ok new =>
          cases same
          rw [State.compiledForm?_keepCompiled, if_pos rfl]

theorem Setting.compileTemplate_eq (setting : Setting) (calls : Calls) (template : Template)
    (state : State) :
    setting.compileTemplate calls template state =
      (setting.compiledForm calls template state).map fun outcome =>
        (match outcome.1 with
          | .error error => .error (error.inTemplate template.name)
          | .ok _ => .ok (), outcome.2) := by
  unfold Setting.compileTemplate Run.blame
  cases compiled : setting.compiledForm calls template state with
  | none =>
      rw [Run.bind_of_none _ compiled]
      rfl
  | some outcome =>
      obtain ⟨result, after⟩ := outcome
      cases result with
      | error error =>
          rw [Run.bind_of_error _ compiled]
          rfl
      | ok form =>
          rw [Run.bind_of_ok _ compiled]
          rfl

/-- Rendering converts the data, finds the form, and renders it. -/
theorem Setting.render_eq (setting : Setting) (calls : Calls) (template : Template) (data : Data)
    (state : State) :
    setting.render calls template data state =
      match data.toValue with
      | .error error => some (.error (error.inTemplate template.name), state)
      | .ok value =>
        match setting.compiledForm calls template state with
        | none => none
        | some (.error error, after) => some (.error (error.inTemplate template.name), after)
        | some (.ok form, after) => form.render calls template.name value after := by
  unfold Setting.render Run.blame
  cases data.toValue with
  | error error => rfl
  | ok value =>
      change (Run.bind (setting.compiledForm calls template) _ state).map _ = _
      unfold Run.bind
      cases setting.compiledForm calls template state with
      | none => rfl
      | some outcome =>
          obtain ⟨result, after⟩ := outcome
          cases result <;> rfl

/-- Whether a template is current, without a record of the check. -/
def Setting.isFresh (setting : Setting) (state : State) (template : Template) : Bool :=
  match template.source.freshness with
  | none => setting.environment.policy.isFresh
  | some freshness => freshness.holds setting.sources state.checked

theorem Setting.isCurrent_eq (setting : Setting) (template : Template) (state : State) :
    setting.isCurrent template state =
      some (.ok (setting.isFresh state template), state.log (setting.checks state template)) := by
  unfold Setting.isCurrent Setting.isFresh Setting.checks
  cases template.source.freshness <;> rfl

theorem Run.bind_of_total {α β : Type} (run : Run α) (next : α → Run β)
    (final : α → State → Except Error β × State)
    (ends : ∀ value state, next value state = some (final value state)) (state : State) :
    (run >>= next) state = (run state).map fun outcome =>
      match outcome with
      | (.error error, after) => (.error error, after)
      | (.ok value, after) => final value after := by
  cases reached : run state with
  | none => exact Run.bind_of_none _ reached
  | some outcome =>
      obtain ⟨result, after⟩ := outcome
      cases result with
      | error error => exact Run.bind_of_error _ reached
      | ok value => exact (Run.bind_of_ok _ reached).trans (ends value after)

/-- Compiles a template if it has to be compiled at once. -/
def Setting.ensure (setting : Setting) (calls : Calls) (template : Template) (eager : Bool) :
    Run Unit :=
  if eager then setting.compileTemplate calls template else return

/-- What was found for a name is issued as a new template, compiled if that is asked for, and
kept. -/
theorem Setting.load_eq (setting : Setting) (calls : Calls) (name : String) (eager : Bool)
    (state : State) :
    setting.load calls name eager state =
      let resolved := state.log (setting.requests name)
      match Loader.find setting.sources name setting.environment.loaders with
      | .error error => some (.error error, resolved)
      | .ok source =>
        let issued := resolved.newTemplate name source
        (setting.ensure calls issued.1 eager issued.2).map fun outcome =>
          match outcome with
          | (.error error, final) => (.error error, final)
          | (.ok _, final) => (.ok issued.1, final.keep issued.1) := by
  have resolved := setting.resolveFrom_eq 0 name setting.environment.loaders state
  unfold Setting.load Setting.resolve
  cases found : Loader.find setting.sources name setting.environment.loaders with
  | error error =>
      rw [found] at resolved
      exact Run.bind_of_error _ resolved
  | ok source =>
      rw [found] at resolved
      refine (Run.bind_of_ok _ resolved).trans ?_
      cases eager with
      | false => rfl
      | true =>
          let issued := (state.log (setting.requests name)).newTemplate name source
          have given : Run.change (·.newTemplate name source) (state.log (setting.requests name)) =
              some (.ok issued.1, issued.2) := rfl
          refine (Run.bind_of_ok _ given).trans ?_
          refine (Run.bind_of_total (setting.compileTemplate calls issued.1)
            (fun _ => do Run.update (·.keep issued.1); return issued.1)
            (fun _ final => (.ok issued.1, final.keep issued.1)) (fun _ _ => rfl)
            issued.2).trans ?_
          refine congrArg₂ Option.map (funext ?_) rfl
          rintro ⟨_ | _, _⟩ <;> rfl

theorem Setting.fetch_of_unknown {setting : Setting} {calls : Calls} {name : String} {state : State}
    (unknown : state.cache.get? name = none) (eager : Bool) :
    setting.fetch calls name eager state = setting.load calls name eager state := by
  have read : Run.state state = some (.ok state, state) := rfl
  refine (Run.bind_of_ok _ read).trans ?_
  simp only [unknown]

/-- A template that is kept and current is given out again, after it was compiled if that is asked
for. Otherwise the name is loaded anew. -/
theorem Setting.fetch_of_kept (setting : Setting) (calls : Calls) {name : String} {state : State}
    {template : Template} (kept : state.cache.get? name = some template) (eager : Bool) :
    setting.fetch calls name eager state =
      let checked := state.log (setting.checks state template)
      if setting.isFresh state template then
        (setting.ensure calls template eager checked).map fun outcome =>
          match outcome with
          | (.error error, final) => (.error error, final)
          | (.ok _, final) => (.ok template, final)
      else setting.load calls name eager checked := by
  have read : Run.state state = some (.ok state, state) := rfl
  refine (Run.bind_of_ok _ read).trans ?_
  simp only [kept]
  refine (Run.bind_of_ok _ (setting.isCurrent_eq template state)).trans ?_
  cases setting.isFresh state template with
  | false => rfl
  | true =>
      cases eager with
      | false => rfl
      | true =>
          refine (Run.bind_of_total (setting.compileTemplate calls template)
            (fun _ => return template) (fun _ final => (.ok template, final)) (fun _ _ => rfl)
            _).trans ?_
          refine congrArg₂ Option.map (funext ?_) rfl
          rintro ⟨_ | _, _⟩ <;> rfl

end Stencil
