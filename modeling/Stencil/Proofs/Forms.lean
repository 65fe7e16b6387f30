import Stencil.Proofs.Depth
import Stencil.Proofs.Emission
import Stencil.Proofs.Lookup

set_option autoImplicit false

namespace Stencil

/-- The compiler has this form, or this error, for the name and the text, in some state and on some
level. -/
def Compiler.Emits (compiler : Compiler) (name text : String) (result : Except Error Compiled) :
    Prop :=
  ∃ (setting : Setting) (level : Nat) (state : State) (answer : Except Error Module) (after : State),
    (setting.calls level).compile compiler name text state = some (answer, after) ∧
    result = Compiled.ofAnswer answer

theorem Run.SameResult.mapError {α β : Type} {R : α → β → Prop} {result : Except Error α}
    {finish : Except Error β} (same : SameResult R result finish) (f : Error → Error) :
    SameResult R (result.mapError f) (finish.mapError f) := by
  cases result with
  | error error =>
      cases finish with
      | error reason => exact congrArg f same
      | ok reply => exact same.elim
  | ok value =>
      cases finish with
      | error reason => exact same.elim
      | ok reply => exact same

theorem Compiled.ofAnswer_alike {answer other : Except Error Module}
    (same : Run.SameResult Module.Alike answer other) :
    Run.SameResult Compiled.Alike (ofAnswer answer) (ofAnswer other) :=
  (same.mapError _).bind fun _ _ alike => Module.compiled_alike alike

section IsFunction

variable {compiler : Compiler} (function : compiler.IsFunction) {name text : String}
include function

/-- Two compilations that end have related answers, on whatever levels and in whatever states. -/
theorem Compiler.IsFunction.answers_alike {setting reset : Setting} {level other : Nat}
    {state before after final : State} {answer reply : Except Error Module}
    (ended : (setting.calls level).compile compiler name text state = some (answer, after))
    (alsoEnded : (reset.calls other).compile compiler name text before = some (reply, final)) :
    Run.SameResult Module.Alike answer reply := by
  have deep := (setting.calls_below (Nat.le_max_left level other)).compile compiler name text
    state _ ended
  have alsoDeep := (reset.calls_below (Nat.le_max_right level other)).compile compiler name text
    before _ alsoEnded
  obtain ⟨_, _, _, ended, same, _⟩ :=
    (function.compile_agree setting reset (max level other) name text).ended deep before
  rw [alsoDeep] at ended
  cases ended
  exact same

theorem Compiler.IsFunction.emits_alike {result finish : Except Error Compiled}
    (emitted : compiler.Emits name text result) (alsoEmitted : compiler.Emits name text finish) :
    Run.SameResult Compiled.Alike result finish := by
  obtain ⟨_, _, _, _, _, ended, rfl⟩ := emitted
  obtain ⟨_, _, _, _, _, alsoEnded, rfl⟩ := alsoEmitted
  exact Compiled.ofAnswer_alike (function.answers_alike ended alsoEnded)

/-- What the compiler emits at one time it can emit at all times. -/
theorem Compiler.IsFunction.compile_ends {result : Except Error Compiled}
    (emitted : compiler.Emits name text result) :
    ∃ level, ∀ (setting : Setting) (deeper : Nat) (state : State), level ≤ deeper →
      ∃ answer after,
        (setting.calls deeper).compile compiler name text state = some (answer, after) := by
  obtain ⟨setting, level, before, answer, after, ended, -⟩ := emitted
  refine ⟨level, ?_⟩
  intro reset deeper state le
  have deep := (setting.calls_below le).compile compiler name text before _ ended
  obtain ⟨reply, final, _, ended, _⟩ :=
    (function.compile_agree setting reset deeper name text).ended deep state
  exact ⟨reply, final, ended⟩

theorem Compiler.IsFunction.compile_extends {setting : Setting} {level : Nat}
    {state after : State} {answer : Except Error Module}
    (ended : (setting.calls level).compile compiler name text state = some (answer, after)) :
    ∃ events, state.Extends after events := by
  obtain ⟨_, _, events, _, _, grown⟩ :=
    (function.compile_agree setting setting level name text).ended ended state
  exact ⟨events, grown⟩

end IsFunction

theorem State.Extends.compiledForm? {state after : State} {events : List Event}
    (grown : state.Extends after events) (template : Nat) :
    after.compiledForm? template = state.compiledForm? template := by
  obtain ⟨_, rfl⟩ := grown
  rfl

/-- Templates are told apart by their numbers, and the forms that are kept are those that the
compiler emits for them. -/
structure State.KnowsForms (state : State) (compiler : Compiler) (handles : List Template) :
    Prop where
  issued : ∀ template ∈ handles, template.id < state.templates
  distinct : ∀ template ∈ handles, ∀ other ∈ handles, template.id = other.id → template = other
  emitted : ∀ template ∈ handles, ∀ form, state.compiledForm? template.id = some form →
    compiler.Emits template.name template.source.text (.ok form)
  unissued : ∀ id, state.templates ≤ id → state.compiledForm? id = none

namespace State.KnowsForms

variable {state after : State} {compiler : Compiler} {handles : List Template}

theorem grow (knows : state.KnowsForms compiler handles) {events : List Event}
    (grown : state.Extends after events) : after.KnowsForms compiler handles := by
  obtain ⟨_, rfl⟩ := grown
  exact ⟨knows.issued, knows.distinct, knows.emitted, knows.unissued⟩

theorem subset (knows : state.KnowsForms compiler handles) {fewer : List Template}
    (subset : fewer ⊆ handles) : state.KnowsForms compiler fewer where
  issued := fun template member => knows.issued template (subset member)
  distinct := fun template member other alsoMember =>
    knows.distinct template (subset member) other (subset alsoMember)
  emitted := fun template member => knows.emitted template (subset member)
  unissued := knows.unissued

theorem newTemplate (knows : state.KnowsForms compiler handles) (name : String) (source : Source) :
    (state.newTemplate name source).2.KnowsForms compiler
      (handles ++ [(state.newTemplate name source).1]) where
  issued := by
    intro template member
    rcases List.mem_append.1 member with old | new
    · exact Nat.lt_succ_of_lt (knows.issued template old)
    · obtain rfl := List.mem_singleton.1 new
      exact Nat.lt_succ_self state.templates
  distinct := by
    intro template member other alsoMember same
    rcases List.mem_append.1 member with old | new <;>
      rcases List.mem_append.1 alsoMember with alsoOld | alsoNew
    · exact knows.distinct template old other alsoOld same
    · have below := knows.issued template old
      obtain rfl := List.mem_singleton.1 alsoNew
      exact absurd same (Nat.ne_of_lt below)
    · have below := knows.issued other alsoOld
      obtain rfl := List.mem_singleton.1 new
      exact absurd same.symm (Nat.ne_of_lt below)
    · rw [List.mem_singleton.1 new, List.mem_singleton.1 alsoNew]
  emitted := by
    intro template member form kept
    rcases List.mem_append.1 member with old | new
    · exact knows.emitted template old form kept
    · obtain rfl := List.mem_singleton.1 new
      have unknown := knows.unissued state.templates (Nat.le_refl _)
      have same : state.compiledForm? state.templates = some form := kept
      rw [unknown] at same
      cases same
  unissued := fun id le => knows.unissued id (Nat.le_of_succ_le le)

theorem keepCompiled (knows : state.KnowsForms compiler handles) {template : Template}
    (member : template ∈ handles) {form : Compiled}
    (emitted : compiler.Emits template.name template.source.text (.ok form)) :
    (state.keepCompiled template.id form).KnowsForms compiler handles := by
  have counted : (state.keepCompiled template.id form).templates = state.templates := by
    obtain ⟨compiled, only⟩ := state.keepCompiled_only template.id form
    rw [only]
  constructor
  · rw [counted]
    exact knows.issued
  · exact knows.distinct
  · intro other alsoMember kept found
    rw [State.compiledForm?_keepCompiled] at found
    by_cases same : other.id = template.id
    · obtain rfl := knows.distinct other alsoMember template member same
      rw [if_pos rfl] at found
      obtain rfl := Option.some.inj found
      cases before : state.compiledForm? other.id with
      | none => exact emitted
      | some old => exact knows.emitted other member old before
    · rw [if_neg same] at found
      exact knows.emitted other alsoMember kept found
  · intro id le
    rw [counted] at le
    have below := knows.issued template member
    rw [State.compiledForm?_keepCompiled, if_neg (by omega)]
    exact knows.unissued id le

end State.KnowsForms

/-- What a lookup of a form may change. -/
structure State.SameTemplates (state after : State) : Prop where
  cache : after.cache = state.cache
  templates : after.templates = state.templates

theorem State.SameTemplates.trans {state middle after : State}
    (first : state.SameTemplates middle) (second : middle.SameTemplates after) :
    state.SameTemplates after :=
  ⟨second.cache.trans first.cache, second.templates.trans first.templates⟩

theorem State.Extends.sameTemplates {state after : State} {events : List Event}
    (grown : state.Extends after events) : state.SameTemplates after := by
  obtain ⟨_, rfl⟩ := grown
  exact ⟨rfl, rfl⟩

theorem State.keepCompiled_sameTemplates (state : State) (template : Nat) (form : Compiled) :
    state.SameTemplates (state.keepCompiled template form) := by
  obtain ⟨compiled, only⟩ := state.keepCompiled_only template form
  rw [only]
  exact ⟨rfl, rfl⟩

section Rendering

variable {compiler : Compiler} (function : compiler.IsFunction)
variable {setting : Setting} (known : setting.environment.compiler = some compiler)
include function known

/-- The form that is found for a template is one that the compiler emits for it, and finding it
leaves the kept forms right. -/
theorem Setting.compiledForm_emits {level : Nat} {template : Template} {handles : List Template}
    {state after : State} {result : Except Error Compiled}
    (knows : state.KnowsForms compiler handles) (member : template ∈ handles)
    (ended : setting.compiledForm (setting.calls level) template state = some (result, after)) :
    compiler.Emits template.name template.source.text result ∧
      after.KnowsForms compiler handles ∧ state.SameTemplates after := by
  cases kept : state.compiledForm? template.id with
  | some form =>
      rw [Setting.compiledForm_of_some kept] at ended
      cases ended
      exact ⟨knows.emitted template member form kept, knows, rfl, rfl⟩
  | none =>
      rw [Setting.compiledForm_of_none kept, Setting.compile_of_some known, Option.map_map] at ended
      obtain ⟨⟨answer, between⟩, answered, same⟩ := Option.map_eq_some_iff.1 ended
      obtain ⟨events, grown⟩ := function.compile_extends answered
      have noted : state.Extends (state.note (.compile (some template.id) template.name
          template.source.text)) [_] := ⟨state.procedures, rfl⟩
      have replied : between.Extends (between.note (.answer (some template.id) answer)) [_] :=
        ⟨between.procedures, rfl⟩
      have reached := (noted.trans grown).trans replied
      have emitted : compiler.Emits template.name template.source.text (Compiled.ofAnswer answer) :=
        ⟨setting, level, _, answer, between, answered, rfl⟩
      have unknown : (between.note (.answer (some template.id) answer)).compiledForm?
          template.id = none := by
        rw [reached.compiledForm?, kept]
      cases sorted : Compiled.ofAnswer answer with
      | error error =>
          simp only [Function.comp_apply, sorted] at same
          cases same
          rw [sorted] at emitted
          exact ⟨emitted, knows.grow reached, reached.sameTemplates⟩
      | ok form =>
          simp only [Function.comp_apply, sorted, unknown, Option.getD_none] at same
          cases same
          rw [sorted] at emitted
          exact ⟨emitted, (knows.grow reached).keepCompiled member emitted,
            reached.sameTemplates.trans (State.keepCompiled_sameTemplates _ _ _)⟩

theorem Setting.compiledForm_ends (template : Template) (state : State)
    {result : Except Error Compiled}
    (emitted : compiler.Emits template.name template.source.text result) :
    ∃ level, ∀ deeper, level ≤ deeper → ∃ result after,
      setting.compiledForm (setting.calls deeper) template state = some (result, after) := by
  cases kept : state.compiledForm? template.id with
  | some form => exact ⟨0, fun deeper _ => ⟨_, _, Setting.compiledForm_of_some kept _ _⟩⟩
  | none =>
      obtain ⟨level, ends⟩ := function.compile_ends emitted
      refine ⟨level, ?_⟩
      intro deeper le
      obtain ⟨answer, after, answered⟩ := ends setting deeper (state.note (.compile
        (some template.id) template.name template.source.text)) le
      rw [Setting.compiledForm_of_none kept, Setting.compile_of_some known, answered]
      exact ⟨_, _, rfl⟩

omit function known in
/-- With the same filters, forms that are alike render alike. -/
theorem Compiled.Alike.render_agree {form other : Compiled} (alike : form.Alike other)
    {reset : Setting} (filters : setting.environment.filters = reset.environment.filters)
    (level : Nat) (name : String) (value : Value) :
    Run.Agree Eq (form.render (setting.calls level) name value)
      (other.render (reset.calls level) name value) := by
  apply Run.Agree.blame
  apply (Run.agree_same value.toVariables).bind_eq
  intro bindings
  exact Setting.invoke_agree filters level _ _ _ _ alike.root
    (Scope.alike_outside rfl alike.blocks)

omit function known in
/-- Forms that are alike render alike, on the same level or on a deeper one. -/
theorem Compiled.Alike.render_deeper {form other : Compiled} (alike : form.Alike other)
    {level deeper : Nat} (le : level ≤ deeper) (name : String) (value : Value)
    {state after before : State} {result : Except Error String}
    (ended : form.render (setting.calls level) name value state = some (result, after)) :
    ∃ final, other.render (setting.calls deeper) name value before = some (result, final) := by
  have below : (other.render (setting.calls level) name value).Below
      (other.render (setting.calls deeper) name value) := by
    apply Run.below_lifts.blame
    apply Run.below_lifts.bind (Run.below_lifts.refl _)
    intro bindings
    exact setting.invoke_deeper le _ _
  obtain ⟨final, alsoEnded⟩ :=
    ((alike.render_agree rfl level name value).result_iff state before result).1 ⟨after, ended⟩
  exact ⟨final, below before _ alsoEnded⟩

/-- Rendering keeps the forms right, and changes no template. -/
theorem Setting.render_keeps {level : Nat} {template : Template} {handles : List Template}
    {state after : State} {data : Data} {result : Except Error String}
    (knows : state.KnowsForms compiler handles) (member : template ∈ handles)
    (ended : setting.render (setting.calls level) template data state = some (result, after)) :
    after.KnowsForms compiler handles ∧ state.SameTemplates after := by
  rw [Setting.render_eq] at ended
  cases converted : data.toValue with
  | error error =>
      rw [converted] at ended
      cases ended
      exact ⟨knows, rfl, rfl⟩
  | ok value =>
      rw [converted] at ended
      cases compiled : setting.compiledForm (setting.calls level) template state with
      | none =>
          rw [compiled] at ended
          cases ended
      | some outcome =>
          obtain ⟨form, between⟩ := outcome
          rw [compiled] at ended
          obtain ⟨emitted, stillKnows, same⟩ :=
            Setting.compiledForm_emits function known knows member compiled
          cases form with
          | error error =>
              cases ended
              exact ⟨stillKnows, same⟩
          | ok form =>
              have rendered : form.render (setting.calls level) template.name value between =
                  some (result, after) := ended
              have itself : form.Alike form := function.emits_alike emitted emitted
              obtain ⟨_, _, _, _, _, grown⟩ :=
                (itself.render_agree rfl level template.name value).ended rendered between
              exact ⟨stillKnows.grow grown, same.trans grown.sameTemplates⟩

/-- Two templates of one name and one text render the same, whatever forms are kept for them. -/
theorem Setting.render_same {template twin : Template} (name : twin.name = template.name)
    (text : twin.source.text = template.source.text) {handles twins : List Template}
    {state before : State} (knows : state.KnowsForms compiler handles)
    (member : template ∈ handles) (alsoKnows : before.KnowsForms compiler twins)
    (alsoMember : twin ∈ twins) {data : Data} {result : Except Error String}
    (renders : setting.RendersTo state template data result) :
    setting.RendersTo before twin data result := by
  obtain ⟨level, after, ended⟩ := renders
  rw [Setting.render_eq] at ended
  cases converted : data.toValue with
  | error error =>
      rw [converted] at ended
      cases ended
      refine ⟨0, before, ?_⟩
      rw [Setting.render_eq, converted, name]
  | ok value =>
      rw [converted] at ended
      cases compiled : setting.compiledForm (setting.calls level) template state with
      | none =>
          rw [compiled] at ended
          cases ended
      | some outcome =>
          obtain ⟨form, between⟩ := outcome
          rw [compiled] at ended
          obtain ⟨emitted, -, -⟩ := Setting.compiledForm_emits function known knows member compiled
          rw [← name, ← text] at emitted
          obtain ⟨enough, ends⟩ := Setting.compiledForm_ends function known twin before emitted
          obtain ⟨twinForm, final, alsoCompiled⟩ :=
            ends (max level enough) (Nat.le_max_right level enough)
          obtain ⟨alsoEmitted, -, -⟩ :=
            Setting.compiledForm_emits function known alsoKnows alsoMember alsoCompiled
          have same := function.emits_alike emitted alsoEmitted
          refine ⟨max level enough, ?_⟩
          rw [Setting.render_eq, converted, alsoCompiled, name]
          cases form with
          | error error =>
              cases twinForm with
              | error reason =>
                  obtain rfl : error = reason := same
                  cases ended
                  exact ⟨_, rfl⟩
              | ok twinForm => exact same.elim
          | ok form =>
              cases twinForm with
              | error reason => exact same.elim
              | ok twinForm =>
                  exact Compiled.Alike.render_deeper same (Nat.le_max_left level enough) _ _ ended

end Rendering

end Stencil
