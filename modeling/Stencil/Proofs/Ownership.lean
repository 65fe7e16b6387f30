import Mathlib.Data.List.Nodup
import Stencil.Proofs.Honesty
import Stencil.Proofs.Lookup

set_option autoImplicit false

namespace Stencil

/-- The templates that were given out, told apart by their numbers, are the only ones that are kept
or that the compiler was called for, with their own name and text. -/
structure State.Registers (state : State) (issued : List Template) : Prop where
  numbered : issued.map Template.id = List.range state.templates
  cached : ∀ name template, state.cache.get? name = some template → template ∈ issued
  called : ∀ id name text, .compile (some id) name text ∈ state.record →
    ∃ template : Template, template ∈ issued ∧
      template.id = id ∧ template.name = name ∧ template.source.text = text
  forms : ∀ id form, state.compiledForm? id = some form → form.All Procedure.Honest

namespace State.Registers

variable {state after : State} {issued : List Template}

theorem unique (registers : state.Registers issued) {template other : Template}
    (member : template ∈ issued) (alsoMember : other ∈ issued) (same : template.id = other.id) :
    template = other := by
  have distinct : (issued.map Template.id).Nodup := by
    rw [registers.numbered]
    exact List.nodup_range
  exact List.inj_on_of_nodup_map distinct member alsoMember same

theorem log (registers : state.Registers issued) {made : List Event}
    (called : ∀ id name text, .compile (some id) name text ∈ made →
      ∃ template : Template, template ∈ issued ∧
        template.id = id ∧ template.name = name ∧ template.source.text = text) :
    (state.log made).Registers issued where
  numbered := registers.numbered
  cached := registers.cached
  called := by
    intro id name text member
    rcases List.mem_append.1 member with new | old
    · exact called id name text (List.mem_reverse.1 new)
    · exact registers.called id name text old
  forms := registers.forms

theorem note (registers : state.Registers issued) {event : Event}
    (called : ∀ id name text, event = .compile (some id) name text →
      ∃ template : Template, template ∈ issued ∧
        template.id = id ∧ template.name = name ∧ template.source.text = text) :
    (state.note event).Registers issued := by
  have logged : (state.log [event]).Registers issued := by
    apply registers.log
    intro id name text member
    exact called id name text (List.mem_singleton.1 member).symm
  exact logged

theorem newTemplate (registers : state.Registers issued) (name : String) (source : Source) :
    (state.newTemplate name source).2.Registers (issued ++ [(state.newTemplate name source).1]) where
  numbered := by
    rw [List.map_append, registers.numbered]
    exact List.range_succ.symm
  cached := fun other template kept =>
    List.mem_append_left _ (registers.cached other template kept)
  called := by
    intro id other text member
    obtain ⟨template, known, own⟩ := registers.called id other text member
    exact ⟨template, List.mem_append_left _ known, own⟩
  forms := registers.forms

theorem keep (registers : state.Registers issued) {template : Template}
    (member : template ∈ issued) : (state.keep template).Registers issued where
  numbered := registers.numbered
  cached := by
    intro name other kept
    rw [State.cache_keep] at kept
    split at kept
    · cases kept
      exact member
    · exact registers.cached name other kept
  called := registers.called
  forms := registers.forms

theorem forgetTemplates (registers : state.Registers issued) :
    state.forgetTemplates.Registers issued := by
  have noted : (state.note .clear).Registers issued := by
    apply registers.note
    intro id name text impossible
    cases impossible
  refine ⟨noted.numbered, ?_, noted.called, noted.forms⟩
  intro name template impossible
  cases impossible

theorem keepCompiled (registers : state.Registers issued) (id : Nat) {form : Compiled}
    (honest : form.All Procedure.Honest) : (state.keepCompiled id form).Registers issued := by
  obtain ⟨compiled, only⟩ := state.keepCompiled_only id form
  constructor
  · rw [only]
    exact registers.numbered
  · rw [only]
    exact registers.cached
  · rw [only]
    exact registers.called
  · intro other kept found
    rw [State.compiledForm?_keepCompiled] at found
    split at found
    · obtain rfl := Option.some.inj found
      cases known : state.compiledForm? id with
      | none => exact honest
      | some old => exact registers.forms id old known
    · exact registers.forms other kept found

end State.Registers

/-- Started with templates that were given out, the run gives out further ones at most, and what it
ends with is right for all of them. -/
def Run.Registers {α : Type} (own : List Template) (right : List Template → α → Prop)
    (run : Run α) : Prop :=
  ∀ issued before result after, own ⊆ issued → before.Registers issued →
    run before = some (result, after) →
    ∃ known, issued ⊆ known ∧ after.Registers known ∧ ∀ value, result = .ok value → right known value

section Registers

variable {α β : Type} {own : List Template} {right : List Template → α → Prop}
variable {final : List Template → β → Prop}

theorem Run.registers_ofExcept {result : Except Error α}
    (correct : ∀ known value, own ⊆ known → result = .ok value → right known value) :
    (Run.ofExcept result).Registers own right := by
  intro issued before reply after owned registers ended
  cases ended
  exact ⟨issued, List.Subset.refl issued, registers, fun value => correct issued value owned⟩

/-- Nothing is promised of the value. -/
theorem Run.registers_any (result : Except Error α) :
    (Run.ofExcept result).Registers own fun _ _ => True :=
  Run.registers_ofExcept fun _ _ _ _ => trivial

theorem Run.registers_state : Run.state.Registers own fun _ _ => True := by
  intro issued before reply after owned registers ended
  cases ended
  exact ⟨issued, List.Subset.refl issued, registers, fun _ _ => trivial⟩

theorem Run.registers_tooDeep : (Run.tooDeep : Run α).Registers own right := by
  intro issued before reply after owned registers impossible
  cases impossible

theorem Run.registers_note {event : Event}
    (elsewhere : ∀ id name text, event ≠ .compile (some id) name text) :
    (Run.note event).Registers own fun _ _ => True := by
  intro issued before result after owned registers ended
  cases ended
  refine ⟨issued, List.Subset.refl issued, ?_, fun _ _ => trivial⟩
  exact registers.note fun id name text same => absurd same (elsewhere id name text)

theorem Run.registers_forgetTemplates :
    (Run.update (·.forgetTemplates)).Registers own fun _ _ => True := by
  intro issued before result after owned registers ended
  cases ended
  exact ⟨issued, List.Subset.refl issued, registers.forgetTemplates, fun _ _ => trivial⟩

theorem Run.registers_newProcedure (body : Body) :
    (Run.change (·.newProcedure body)).Registers own fun _ procedure => procedure.body = body := by
  intro issued before reply after owned registers ended
  cases ended
  refine ⟨issued, List.Subset.refl issued, ?_, ?_⟩
  · exact ⟨registers.numbered, registers.cached, registers.called, registers.forms⟩
  · intro procedure same
    cases same
    rfl

theorem Run.Registers.mono {run : Run α} (registers : run.Registers own right)
    {more : List Template} (owned : own ⊆ more) : run.Registers more right := by
  intro issued before result after alsoOwned
  exact registers issued before result after (List.Subset.trans owned alsoOwned)

theorem Run.Registers.bind {run : Run α} {next : α → Run β} (first : run.Registers own right)
    (rest : ∀ known value, own ⊆ known → right known value → (next value).Registers known final) :
    (run >>= next).Registers own final := by
  intro issued before result after owned registers ended
  cases reached : run before with
  | none =>
      rw [Run.bind_of_none next reached] at ended
      cases ended
  | some outcome =>
      obtain ⟨reply, middle⟩ := outcome
      obtain ⟨known, grown, between, correct⟩ := first _ _ _ _ owned registers reached
      cases reply with
      | error error =>
          rw [Run.bind_of_error next reached] at ended
          cases ended
          refine ⟨known, grown, between, ?_⟩
          intro value impossible
          cases impossible
      | ok value =>
          rw [Run.bind_of_ok next reached] at ended
          obtain ⟨all, further, later, alsoCorrect⟩ :=
            rest known value (List.Subset.trans owned grown) (correct value rfl) _ _ _ _
              (List.Subset.refl known) between ended
          exact ⟨all, List.Subset.trans grown further, later, alsoCorrect⟩

theorem Run.Registers.attempt {run : Run α} (registers : run.Registers own right) :
    run.attempt.Registers own fun known result => ∀ value, result = .ok value → right known value := by
  intro issued before result after owned registered ended
  obtain ⟨⟨reply, middle⟩, reached, same⟩ := Option.map_eq_some_iff.1 ended
  cases same
  obtain ⟨known, grown, between, correct⟩ := registers _ _ _ _ owned registered reached
  refine ⟨known, grown, between, ?_⟩
  intro value same
  cases same
  exact correct

theorem Run.Registers.blame {run : Run α} (registers : run.Registers own right) (name : String) :
    (run.blame name).Registers own right := by
  intro issued before result after owned registered ended
  obtain ⟨⟨reply, middle⟩, reached, same⟩ := Option.map_eq_some_iff.1 ended
  cases same
  obtain ⟨known, grown, between, correct⟩ := registers _ _ _ _ owned registered reached
  refine ⟨known, grown, between, ?_⟩
  intro value same
  cases reply with
  | error error => cases same
  | ok other => exact correct value same

theorem Setting.applyFilter_registers (setting : Setting) (name : String) (value : Value)
    (args : List Value) : (setting.applyFilter name value args).Registers own fun _ _ => True := by
  unfold Setting.applyFilter
  split
  · exact Run.registers_any _
  · have noted : (Run.note (.filter name value args)).Registers own fun _ _ => True :=
      Run.registers_note nofun
    exact noted.bind fun _ _ _ _ => Run.registers_any _

end Registers

/-- Calls that leave templates to those they were given to. -/
structure Calls.Honest (calls : Calls) : Prop where
  invoke : ∀ procedure scope, procedure.Honest → scope.Honest →
    (calls.invoke procedure scope).Registers [] fun _ _ => True
  compile : ∀ compiler name text, compiler.Honest →
    (calls.compile compiler name text).Registers [] fun _ m => m.All Procedure.Honest

/-- The template in an answer, if there is one, was given out. -/
theorem Run.given_subset {known : List Template} {result : Except Error Template}
    (given : ∀ template, result = .ok template → template ∈ known) :
    result.toOption.toList ⊆ known := by
  intro template member
  cases result with
  | error error => cases member
  | ok other =>
      rw [List.mem_singleton.1 member]
      exact given other rfl

section Calls

variable {setting : Setting} (faithful : setting.environment.Honest)
variable {calls : Calls} (honest : calls.Honest) {own : List Template}

section Templates

variable {template : Template} (member : template ∈ own)
include faithful honest member

theorem Setting.compile_registers :
    (setting.compile calls template).Registers own fun _ form => form.All Procedure.Honest := by
  intro issued before result after owned registers ended
  cases known : setting.environment.compiler with
  | none =>
      unfold Setting.compile at ended
      rw [known] at ended
      cases ended
      refine ⟨issued, List.Subset.refl issued, registers, ?_⟩
      intro form impossible
      cases impossible
  | some compiler =>
      rw [Setting.compile_of_some known] at ended
      obtain ⟨⟨answer, between⟩, answered, same⟩ := Option.map_eq_some_iff.1 ended
      cases same
      have noted : (before.note (.compile (some template.id) template.name
          template.source.text)).Registers issued := by
        apply registers.note
        intro id name text same
        cases same
        exact ⟨template, owned member, rfl, rfl, rfl⟩
      obtain ⟨all, grown, later, exported⟩ := honest.compile compiler template.name
        template.source.text (faithful compiler known) _ _ _ _ (List.nil_subset issued) noted answered
      have settled : (between.note (.answer (some template.id) answer)).Registers all := by
        apply later.note
        intro id name text impossible
        cases impossible
      refine ⟨all, grown, settled, ?_⟩
      intro form sorted
      cases answer with
      | error error => cases sorted
      | ok m => exact (exported m rfl).compiled sorted

theorem Setting.compiledForm_registers :
    (setting.compiledForm calls template).Registers own fun _ form => form.All Procedure.Honest := by
  intro issued before result after owned registers ended
  cases kept : before.compiledForm? template.id with
  | some form =>
      rw [Setting.compiledForm_of_some kept] at ended
      cases ended
      refine ⟨issued, List.Subset.refl issued, registers, ?_⟩
      intro other same
      cases same
      exact registers.forms template.id form kept
  | none =>
      rw [Setting.compiledForm_of_none kept] at ended
      obtain ⟨⟨reply, between⟩, compiled, same⟩ := Option.map_eq_some_iff.1 ended
      obtain ⟨all, grown, later, sorted⟩ := Setting.compile_registers faithful honest member
        _ _ _ _ owned registers compiled
      cases reply with
      | error error =>
          cases same
          refine ⟨all, grown, later, ?_⟩
          intro form impossible
          cases impossible
      | ok form =>
          cases same
          refine ⟨all, grown, later.keepCompiled template.id (sorted form rfl), ?_⟩
          intro other same
          cases same
          -- The compiler may have had the template compiled meanwhile; then that form is given out.
          cases found : between.compiledForm? template.id with
          | none => exact sorted form rfl
          | some meanwhile => exact later.forms template.id meanwhile found

theorem Setting.compileTemplate_registers :
    (setting.compileTemplate calls template).Registers own fun _ _ => True := by
  apply Run.Registers.blame
  exact (Setting.compiledForm_registers faithful honest member).bind fun _ _ _ _ =>
    Run.registers_any _

theorem Setting.ensure_registers (eager : Bool) :
    (setting.ensure calls template eager).Registers own fun _ _ => True := by
  cases eager with
  | false => exact Run.registers_any _
  | true => exact Setting.compileTemplate_registers faithful honest member

theorem Setting.render_registers (data : Data) :
    (setting.render calls template data).Registers own fun _ _ => True := by
  apply Run.Registers.blame
  apply (Run.registers_any _).bind
  intro known value owned _
  apply (Setting.compiledForm_registers faithful honest (owned member)).bind
  intro more form _ all
  apply (Run.registers_any _).bind
  intro _ bindings _ _
  have bodies : Scope.Honest (.outside ⟨some template.name, bindings, form.blocks⟩) := all.bodies
  exact (honest.invoke _ _ all.root bodies).mono (List.nil_subset _)

end Templates

section Fetching

include faithful honest

theorem Setting.load_registers (name : String) (eager : Bool) :
    (setting.load calls name eager).Registers own fun known template => template ∈ known := by
  intro issued before result after owned registers ended
  rw [Setting.load_eq] at ended
  have requested : (before.log (setting.requests name)).Registers issued := by
    apply registers.log
    intro id other text called
    obtain ⟨_, impossible⟩ := Setting.mem_requests called
    cases impossible
  cases found : Loader.find setting.sources name setting.environment.loaders with
  | error error =>
      rw [found] at ended
      cases ended
      refine ⟨issued, List.Subset.refl issued, requested, ?_⟩
      intro template impossible
      cases impossible
  | ok source =>
      rw [found] at ended
      obtain ⟨⟨verdict, left⟩, ensured, same⟩ := Option.map_eq_some_iff.1 ended
      obtain ⟨all, grown, later, -⟩ := Setting.ensure_registers faithful honest
        List.mem_concat_self eager _ _ _ _ (List.Subset.refl _) (requested.newTemplate name source)
        ensured
      have known := List.Subset.trans (List.subset_append_left issued _) grown
      have new := grown List.mem_concat_self
      cases verdict with
      | error error =>
          cases same
          refine ⟨all, known, later, ?_⟩
          intro template impossible
          cases impossible
      | ok _ =>
          cases same
          refine ⟨all, known, later.keep new, ?_⟩
          intro template same
          cases same
          exact new

theorem Setting.fetch_registers (name : String) (eager : Bool) :
    (setting.fetch calls name eager).Registers own fun known template => template ∈ known := by
  intro issued before result after owned registers ended
  cases kept : before.cache.get? name with
  | none =>
      rw [Setting.fetch_of_unknown kept] at ended
      exact Setting.load_registers faithful honest name eager _ _ _ _ owned registers ended
  | some template =>
      rw [Setting.fetch_of_kept _ _ kept] at ended
      have checked : (before.log (setting.checks before template)).Registers issued := by
        apply registers.log
        intro id other text called
        obtain ⟨_, _, impossible⟩ := Setting.mem_checks called
        cases impossible
      by_cases fresh : setting.isFresh before template = true
      · rw [if_pos fresh] at ended
        obtain ⟨⟨verdict, left⟩, ensured, same⟩ := Option.map_eq_some_iff.1 ended
        have member := registers.cached name template kept
        obtain ⟨all, grown, later, -⟩ := Setting.ensure_registers faithful honest member eager
          _ _ _ _ (List.Subset.refl issued) checked ensured
        cases verdict with
        | error error =>
            cases same
            refine ⟨all, grown, later, ?_⟩
            intro template impossible
            cases impossible
        | ok _ =>
            cases same
            refine ⟨all, grown, later, ?_⟩
            intro other same
            cases same
            exact grown member
      · rw [if_neg fresh] at ended
        exact Setting.load_registers faithful honest name eager _ _ _ _ owned checked ended

theorem Setting.request_registers (name : String) (eager : Bool) :
    (setting.request calls name eager).Registers own fun known template => template ∈ known := by
  have requested : (Run.note (.request name)).Registers own fun _ _ => True :=
    Run.registers_note nofun
  apply requested.bind
  intro _ _ _ _
  exact Setting.fetch_registers faithful honest name eager

theorem Recipe.run_registers {compiler : Compiler} (trusted : compiler.Honest) {recipe : Recipe}
    (given : recipe.Honest own) :
    (recipe.run setting calls compiler).Registers own fun _ m => m.All Procedure.Honest := by
  induction recipe generalizing own with
  | done result => exact Run.registers_ofExcept fun _ m _ same => given m same
  | make body next ih =>
      apply (Run.registers_newProcedure body).bind
      intro known procedure owned same
      have started : procedure.Honest := by
        unfold Procedure.Honest
        rw [same]
        exact given.1
      exact (ih procedure (given.2 procedure started)).mono owned
  | fetch name eager next ih =>
      apply (Setting.request_registers faithful honest name eager).attempt.bind
      intro known result owned found
      exact (ih result (given result)).mono (List.append_subset.2 ⟨owned, Run.given_subset found⟩)
  | look next ih =>
      apply Run.registers_state.bind
      intro known state owned _
      exact (ih _ (given _)).mono owned
  | clear next ih =>
      apply Run.registers_forgetTemplates.bind
      intro known _ owned _
      exact (ih given).mono owned
  | compile template next ih =>
      apply (Setting.compileTemplate_registers faithful honest given.1).attempt.bind
      intro known result owned _
      exact (ih result (given.2 result)).mono owned
  | render template data next ih =>
      apply (Setting.render_registers faithful honest given.1 data).attempt.bind
      intro known result owned _
      exact (ih result (given.2 result)).mono owned
  | again name text next ih =>
      apply ((honest.compile compiler name text trusted).mono (List.nil_subset own)).attempt.bind
      intro known result owned exported
      exact (ih result (given result exported)).mono owned

end Fetching

section Rendering

variable {scope : Scope} (bodies : scope.Honest)

section Blocks

include honest bodies

theorem Scope.renderBlock_registers (name : String) :
    (scope.renderBlock calls name).Registers own fun _ _ => True := by
  unfold Scope.renderBlock
  cases found : scope.context.block name with
  | error error => exact Run.registers_any _
  | ok block =>
      have stands := (Context.placed_block found).inStack rfl
      exact (honest.invoke block.procedure (.inside scope.context block)
        (bodies _ _ (List.mem_of_getElem? stands)) bodies).mono (List.nil_subset own)

theorem Scope.renderSuper_registers :
    (scope.renderSuper calls).Registers own fun _ _ => True := by
  unfold Scope.renderSuper
  cases found : scope.super with
  | error error => exact Run.registers_any _
  | ok block =>
      unfold Scope.super at found
      split at found
      · cases found
      · have stands := (Context.placed_super found).inStack rfl
        exact (honest.invoke block.procedure (.inside scope.context block)
          (bodies _ _ (List.mem_of_getElem? stands)) bodies).mono (List.nil_subset own)

theorem Op.run_registers (setting : Setting) (machine : Machine) (op : Op) :
    (op.run setting calls scope machine).Registers own fun _ _ => True := by
  cases op with
  | text | lookup | const => exact Run.registers_any _
  | filter name count =>
      apply (Run.registers_any _).bind
      intro _ ⟨args, machine⟩ _ _
      apply (Run.registers_any _).bind
      intro _ ⟨value, machine⟩ _ _
      exact (setting.applyFilter_registers name value args).bind fun _ _ _ _ =>
        Run.registers_any _
  | emit => exact (Run.registers_any _).bind fun _ _ _ _ => Run.registers_any _
  | block name =>
      exact (Scope.renderBlock_registers honest bodies name).bind fun _ _ _ _ =>
        Run.registers_any _
  | super =>
      exact (Scope.renderSuper_registers honest bodies).bind fun _ _ _ _ => Run.registers_any _

theorem Code.runFrom_registers (setting : Setting) (machine : Machine) (code : Code) :
    (code.runFrom setting calls scope machine).Registers own fun _ _ => True := by
  induction code generalizing own machine with
  | nil => exact Run.registers_any _
  | cons op rest ih =>
      apply (Op.run_registers honest bodies setting machine op).bind
      intro known machine _ _
      exact ih machine

end Blocks

include faithful honest bodies

theorem Script.run_registers {script : Script} (given : script.Honest own) :
    (script.run setting calls scope).Registers own fun _ _ => True := by
  induction script generalizing own with
  | done result => exact Run.registers_any _
  | look next ih =>
      apply Run.registers_state.bind
      intro known state owned _
      exact (ih _ (given _)).mono owned
  | filter name value args next ih =>
      apply (setting.applyFilter_registers name value args).attempt.bind
      intro known result owned _
      exact (ih result (given result)).mono owned
  | block name next ih =>
      apply (Scope.renderBlock_registers honest bodies name).attempt.bind
      intro known result owned _
      exact (ih result (given result)).mono owned
  | super next ih =>
      apply (Scope.renderSuper_registers honest bodies).attempt.bind
      intro known result owned _
      exact (ih result (given result)).mono owned
  | fetch name eager next ih =>
      apply (Setting.request_registers faithful honest name eager).attempt.bind
      intro known result owned found
      exact (ih result (given result)).mono (List.append_subset.2 ⟨owned, Run.given_subset found⟩)
  | clear next ih =>
      apply Run.registers_forgetTemplates.bind
      intro known _ owned _
      exact (ih given).mono owned
  | compile template next ih =>
      apply (Setting.compileTemplate_registers faithful honest given.1).attempt.bind
      intro known result owned _
      exact (ih result (given.2 result)).mono owned
  | render template data next ih =>
      apply (Setting.render_registers faithful honest given.1 data).attempt.bind
      intro known result owned _
      exact (ih result (given.2 result)).mono owned

theorem Procedure.run_registers {procedure : Procedure} (given : procedure.Honest) :
    (procedure.run setting calls scope).Registers [] fun _ _ => True := by
  unfold Procedure.Honest at given
  unfold Procedure.run
  cases body : procedure.body with
  | code ops =>
      exact (Code.runFrom_registers honest bodies setting .initial ops).bind fun _ _ _ _ =>
        Run.registers_any _
  | native script =>
      rw [body] at given
      exact Script.run_registers faithful honest bodies given

end Rendering

end Calls

/-- With an honest compiler, all levels leave templates to those they were given to. -/
theorem Setting.calls_honest {setting : Setting} (faithful : setting.environment.Honest)
    (level : Nat) : (setting.calls level).Honest := by
  induction level with
  | zero =>
      exact ⟨fun _ _ _ _ => Run.registers_tooDeep, fun _ _ _ _ => Run.registers_tooDeep⟩
  | succ level ih =>
      constructor
      · intro procedure scope given bodies
        exact Procedure.run_registers faithful ih bodies given
      · intro compiler name text trusted
        exact Recipe.run_registers faithful ih trusted (trusted name text)

end Stencil
