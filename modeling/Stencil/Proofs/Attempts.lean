import Stencil.Proofs.Honesty
import Stencil.Proofs.Regularity
import Stencil.Proofs.Transparency

set_option autoImplicit false

namespace Stencil

/-- A procedure that is made of instructions. -/
def Procedure.Interpreted (procedure : Procedure) : Prop := ∃ code, procedure.body = .code code

/-- A setting with filters and nothing else. -/
def Setting.ofFilters (filters : Filters) : Setting :=
  ⟨⟨[], none, filters, .assumeStale⟩, .empty⟩

/-- What a form renders data to under a name, with filters and nothing else. -/
def Compiled.Yields (form : Compiled) (filters : Filters) (name : String) (data : Data)
    (result : Except Error String) : Prop :=
  match data.toValue with
  | .error error => result = .error (error.inTemplate name)
  | .ok value => ∃ level after,
    form.render ((Setting.ofFilters filters).calls level) name value .initial = some (result, after)

section Interpreted

variable {form : Compiled} (interpreted : form.All Procedure.Interpreted)
include interpreted

theorem Compiled.All.alike : form.Alike form where
  root := by
    obtain ⟨code, body⟩ := interpreted.root
    exact ⟨code, body, body⟩
  blocks := by
    intro name
    apply List.forall₂_same.2
    intro procedure member
    obtain ⟨code, body⟩ := interpreted.bodies name procedure member
    exact ⟨code, body, body⟩

/-- A form of instructions yields one result at most. -/
theorem Compiled.Yields.unique {filters : Filters} {name : String} {data : Data}
    {result other : Except Error String} (yields : form.Yields filters name data result)
    (alsoYields : form.Yields filters name data other) : result = other := by
  unfold Compiled.Yields at yields alsoYields
  cases converted : data.toValue with
  | error error =>
      rw [converted] at yields alsoYields
      exact yields.trans alsoYields.symm
  | ok value =>
      rw [converted] at yields alsoYields
      obtain ⟨level, after, ended⟩ := yields
      obtain ⟨further, final, alsoEnded⟩ := alsoYields
      have alike := interpreted.alike
      let calls := (Setting.ofFilters filters).calls (max level further)
      have deep : ∃ last, form.render calls name value .initial = some (result, last) :=
        alike.render_deeper (Nat.le_max_left level further) name value ended
      have alsoDeep : ∃ last, form.render calls name value .initial = some (other, last) :=
        alike.render_deeper (Nat.le_max_right level further) name value alsoEnded
      obtain ⟨last, reached⟩ := deep
      obtain ⟨_, same⟩ := alsoDeep
      rw [reached] at same
      cases same
      rfl

/-- Once a form of instructions is kept for a template, the template renders to what the form
yields. -/
theorem Setting.rendersTo_iff_yields (setting : Setting) {state : State} {template : Template}
    (kept : state.compiledForm? template.id = some form) (data : Data)
    (result : Except Error String) :
    setting.RendersTo state template data result ↔
      form.Yields setting.environment.filters template.name data result := by
  have rendered : ∀ level, setting.render (setting.calls level) template data state = _ :=
    fun level => setting.render_eq (setting.calls level) template data state
  unfold Setting.RendersTo Compiled.Yields
  cases converted : data.toValue with
  | error error =>
      simp only [converted] at rendered
      simp only [rendered]
      constructor
      · rintro ⟨level, after, same⟩
        cases same
        rfl
      · rintro rfl
        exact ⟨0, state, rfl⟩
  | ok value =>
      simp only [converted, Setting.compiledForm_of_some kept] at rendered
      simp only [rendered]
      let bare : Setting := .ofFilters setting.environment.filters
      have filters : setting.environment.filters = bare.environment.filters := rfl
      have agree : ∀ level, Run.Agree Eq (form.render (setting.calls level) template.name value)
          (form.render (bare.calls level) template.name value) :=
        fun level => interpreted.alike.render_agree filters level template.name value
      constructor
      · rintro ⟨level, ended⟩
        exact ⟨level, ((agree level).result_iff state .initial result).1 ended⟩
      · rintro ⟨level, ended⟩
        exact ⟨level, ((agree level).result_iff state .initial result).2 ended⟩

end Interpreted

/-- The compiler is called for the template first of all, with its name and text. Then the template has
the form of the first valid answer, which is the answer to this call unless the compiler has had the
template compiled meanwhile. -/
def Setting.CallsFor (setting : Setting) (calls : Calls) (template : Template)
    (before after : State) : Prop :=
  ∃ compiler answer between made rest,
    let call : Event := .compile (some template.id) template.name template.source.text
    setting.environment.compiler = some compiler ∧
    calls.compile compiler template.name template.source.text (before.note call) =
      some (answer, between) ∧
    between.events = before.events ++ call :: made ∧
    after.events = between.events ++ .answer (some template.id) answer :: rest ∧
    after.compiledForm? template.id =
      (made.findSome? (Event.form? template.id)).or (Compiled.ofAnswer answer).toOption ∧
    ((∀ name text, .compile (some template.id) name text ∉ made) →
      after.compiledForm? template.id = (Compiled.ofAnswer answer).toOption)

section Uncompiled

variable {setting : Setting} {template : Template} {before after : State}

/-- What comes after the form was found does not change it. -/
theorem Setting.CallsFor.further {calls : Calls} {settled : State} {made : List Event}
    {form : Compiled} (called : setting.CallsFor calls template before settled)
    (kept : settled.compiledForm? template.id = some form)
    (follows : setting.Follows settled after made) :
    setting.CallsFor calls template before after := by
  obtain ⟨compiler, answer, between, meanwhile, rest, known, answered, events, more, first, single⟩ :=
    called
  have same : after.compiledForm? template.id = settled.compiledForm? template.id := by
    rw [kept, follows.still kept]
  refine ⟨compiler, answer, between, meanwhile, rest ++ made, known, answered, events, ?_,
    same.trans first, fun uncalled => same.trans (single uncalled)⟩
  rw [follows.events, more, List.append_assoc, List.cons_append]

variable {calls : Calls} (regular : calls.Regular setting)
variable {compiler : Compiler} (known : setting.environment.compiler = some compiler)
variable (unknown : before.compiledForm? template.id = none)
include regular known unknown

theorem Setting.compiledForm_callsFor {result : Except Error Compiled}
    (ended : setting.compiledForm calls template before = some (result, after)) :
    setting.CallsFor calls template before after := by
  rw [Setting.compiledForm_eq known unknown] at ended
  obtain ⟨⟨answer, between⟩, answered, same⟩ := Option.map_eq_some_iff.1 ended
  cases same
  obtain ⟨made, follows, -⟩ := regular.compile _ _ _ _ _ _ answered
  have form : (between.settle template.id answer).compiledForm? template.id =
      (made.findSome? (Event.form? template.id)).or (Compiled.ofAnswer answer).toOption := by
    rw [State.compiledForm?_settle, follows.forms, Event.form?_answer, if_pos rfl]
    change ((before.compiledForm? template.id).or _).or _ = _
    rw [unknown, Option.none_or]
  refine ⟨compiler, answer, between, made, [], known, answered, ?_, ?_, form, ?_⟩
  · refine follows.events.trans ?_
    simp only [State.events, State.note, List.reverse_cons, List.append_assoc, List.singleton_append]
  · obtain ⟨compiled, only⟩ := between.settle_only template.id answer
    rw [only]
    exact between.events_log [.answer (some template.id) answer]
  · intro uncalled
    rw [form, follows.no_form uncalled, Option.none_or]

theorem Setting.compileTemplate_callsFor {result : Except Error Unit}
    (ended : setting.compileTemplate calls template before = some (result, after)) :
    setting.CallsFor calls template before after := by
  rw [Setting.compileTemplate_eq] at ended
  obtain ⟨⟨form, settled⟩, compiled, same⟩ := Option.map_eq_some_iff.1 ended
  cases same
  exact Setting.compiledForm_callsFor regular known unknown compiled

theorem Setting.render_callsFor {data : Data} {value : Value} (converted : data.toValue = .ok value)
    {result : Except Error String}
    (ended : setting.render calls template data before = some (result, after)) :
    setting.CallsFor calls template before after := by
  rw [Setting.render_eq, converted] at ended
  cases compiled : setting.compiledForm calls template before with
  | none =>
      rw [compiled] at ended
      cases ended
  | some outcome =>
      obtain ⟨reply, settled⟩ := outcome
      rw [compiled] at ended
      have called := Setting.compiledForm_callsFor regular known unknown compiled
      cases reply with
      | error error =>
          cases ended
          exact called
      | ok form =>
          have rendered : (form.render calls template.name value).Regular setting fun _ => False := by
            apply Run.Regular.blame
            apply (Run.regular_ofExcept _).bind
            intro bindings
            exact regular.invoke _ _
          obtain ⟨made, follows, -⟩ := rendered _ _ _ ended
          exact called.further (Setting.kept_of_compiledForm compiled) follows

end Uncompiled

/-- How a template that is not compiled comes to be compiled: whatever needs its form calls the
compiler for it. What fails before that leaves everything as it was. -/
structure Setting.CallsCompiler (setting : Setting) (template : Template) (before : State) : Prop where
  compile : ∀ level result after,
    setting.compileTemplate (setting.calls level) template before = some (result, after) →
    setting.CallsFor (setting.calls level) template before after
  render : ∀ level data value result after, data.toValue = .ok value →
    setting.render (setting.calls level) template data before = some (result, after) →
    setting.CallsFor (setting.calls level) template before after
  unconverted : ∀ level data error, data.toValue = .error error →
    setting.render (setting.calls level) template data before =
      some (.error (error.inTemplate template.name), before)
  fetch : ∀ level result after, setting.Current before template.name template →
    setting.fetch (setting.calls level) template.name true before = some (result, after) →
    setting.CallsFor (setting.calls level) template
      (before.log (setting.checks before template)) after

theorem Setting.callsCompiler {setting : Setting} {compiler : Compiler}
    (known : setting.environment.compiler = some compiler) {template : Template} {before : State}
    (unknown : before.compiledForm? template.id = none) : setting.CallsCompiler template before where
  compile := fun level _ _ ended =>
    Setting.compileTemplate_callsFor (setting.calls_regular level) known unknown ended
  render := fun level _ _ _ _ converted ended =>
    Setting.render_callsFor (setting.calls_regular level) known unknown converted ended
  unconverted := by
    intro level data error converted
    rw [Setting.render_eq, converted]
  fetch := by
    intro level result after current ended
    rw [Setting.fetch_of_kept _ _ current.1, if_pos current.2] at ended
    obtain ⟨⟨verdict, left⟩, ensured, same⟩ := Option.map_eq_some_iff.1 ended
    have stillUnknown : (before.log (setting.checks before template)).compiledForm? template.id =
        none := unknown
    have called := Setting.compileTemplate_callsFor (setting.calls_regular level) known
      stillUnknown ensured
    cases verdict <;> cases same <;> exact called

end Stencil
