import Stencil.Proofs.Effects

set_option autoImplicit false

namespace Stencil

/-- A run that leaves states which follow those it starts from. Loaders are asked for names of its own,
and otherwise for those that are requested. -/
def Run.Regular {α : Type} (setting : Setting) (own : String → Prop) (run : Run α) : Prop :=
  ∀ before result after, run before = some (result, after) →
    ∃ made, setting.Follows before after made ∧ Event.Attributed own made

section Regular

variable {α β : Type} {setting : Setting} {own : String → Prop}

theorem Run.regular_ofExcept (result : Except Error α) :
    (Run.ofExcept result).Regular setting own := by
  intro before reply after ended
  cases ended
  exact ⟨[], .refl setting before, .of_no_loads fun _ _ => List.not_mem_nil⟩

theorem Run.regular_state : Run.state.Regular setting own := by
  intro before reply after ended
  cases ended
  exact ⟨[], .refl setting before, .of_no_loads fun _ _ => List.not_mem_nil⟩

theorem Run.regular_tooDeep : (Run.tooDeep : Run α).Regular setting own := by
  intro before reply after impossible
  cases impossible

theorem Run.Regular.bind {run : Run α} {next : α → Run β} (first : run.Regular setting own)
    (rest : ∀ value, (next value).Regular setting own) : (run >>= next).Regular setting own := by
  intro before result after ended
  cases reached : run before with
  | none =>
      rw [Run.bind_of_none next reached] at ended
      cases ended
  | some outcome =>
      obtain ⟨reply, middle⟩ := outcome
      obtain ⟨made, early, attributed⟩ := first _ _ _ reached
      cases reply with
      | error error =>
          rw [Run.bind_of_error next reached] at ended
          cases ended
          exact ⟨made, early, attributed⟩
      | ok value =>
          rw [Run.bind_of_ok next reached] at ended
          obtain ⟨more, late, alsoAttributed⟩ := rest value _ _ _ ended
          exact ⟨made ++ more, early.trans late, attributed.append alsoAttributed⟩

theorem Run.Regular.attempt {run : Run α} (regular : run.Regular setting own) :
    run.attempt.Regular setting own := by
  intro before result after ended
  obtain ⟨_, reached, same⟩ := Option.map_eq_some_iff.1 ended
  cases same
  exact regular _ _ _ reached

theorem Run.Regular.blame {run : Run α} (regular : run.Regular setting own) (name : String) :
    (run.blame name).Regular setting own := by
  intro before result after ended
  obtain ⟨_, reached, same⟩ := Option.map_eq_some_iff.1 ended
  cases same
  exact regular _ _ _ reached

theorem Run.regular_newProcedure (body : Body) :
    (Run.change (·.newProcedure body)).Regular setting own := by
  intro before result after ended
  cases ended
  exact ⟨[], setting.follows_newProcedure before body,
    .of_no_loads fun _ _ => List.not_mem_nil⟩

theorem Run.regular_forgetTemplates : (Run.update (·.forgetTemplates)).Regular setting own := by
  intro before result after ended
  cases ended
  refine ⟨[.clear], setting.follows_forgetTemplates before, .of_no_loads ?_⟩
  intro place name impossible
  cases List.mem_singleton.1 impossible

theorem Setting.applyFilter_regular (name : String) (value : Value) (args : List Value) :
    (setting.applyFilter name value args).Regular setting own := by
  unfold Setting.applyFilter
  split
  · exact Run.regular_ofExcept _
  · refine Run.Regular.bind ?_ fun _ => Run.regular_ofExcept _
    intro before result after ended
    cases ended
    refine ⟨[.filter name value args], setting.follows_note before ⟨nofun, nofun⟩, .of_no_loads ?_⟩
    intro place other impossible
    cases List.mem_singleton.1 impossible

end Regular

/-- Calls that are regular. Neither rendering nor compiling asks for names of its own. -/
structure Calls.Regular (setting : Setting) (calls : Calls) : Prop where
  invoke : ∀ procedure scope, (calls.invoke procedure scope).Regular setting fun _ => False
  compile : ∀ compiler name text,
    (calls.compile compiler name text).Regular setting fun _ => False

section Calls

variable {setting : Setting} {calls : Calls} (regular : calls.Regular setting)
include regular

theorem Setting.compiledForm_regular (template : Template) :
    (setting.compiledForm calls template).Regular setting fun _ => False := by
  intro before result after ended
  cases kept : before.compiledForm? template.id with
  | some form =>
      rw [Setting.compiledForm_of_some kept] at ended
      cases ended
      exact ⟨[], .refl setting before, .of_no_loads fun _ _ => List.not_mem_nil⟩
  | none =>
      cases known : setting.environment.compiler with
      | none =>
          rw [Setting.compiledForm_of_none kept, Setting.compile, known] at ended
          cases ended
          exact ⟨[], .refl setting before, .of_no_loads fun _ _ => List.not_mem_nil⟩
      | some compiler =>
          rw [Setting.compiledForm_eq known kept] at ended
          obtain ⟨⟨answer, between⟩, answered, same⟩ := Option.map_eq_some_iff.1 ended
          cases same
          obtain ⟨made, follows, attributed⟩ := regular.compile _ _ _ _ _ _ answered
          refine ⟨_, follows.settle kept answer, ?_⟩
          intro place name asked
          have meanwhile : .load place name ∈ made := by simpa using asked
          refine (attributed place name meanwhile).imp_right ?_
          intro requested
          simp [requested]

theorem Setting.compileTemplate_regular (template : Template) :
    (setting.compileTemplate calls template).Regular setting fun _ => False := by
  apply Run.Regular.blame
  exact (Setting.compiledForm_regular regular template).bind fun _ => Run.regular_ofExcept _

theorem Setting.ensure_regular (template : Template) (eager : Bool) :
    (setting.ensure calls template eager).Regular setting fun _ => False := by
  cases eager with
  | false => exact Run.regular_ofExcept _
  | true => exact Setting.compileTemplate_regular regular template

theorem Setting.load_regular (name : String) (eager : Bool) :
    (setting.load calls name eager).Regular setting (· = name) := by
  intro before result after ended
  rw [Setting.load_eq] at ended
  have requested := setting.follows_requests before name
  have attributed : Event.Attributed (· = name) (setting.requests name) := by
    intro place other asked
    obtain ⟨_, same⟩ := Setting.mem_requests asked
    cases same
    exact Or.inl rfl
  cases found : Loader.find setting.sources name setting.environment.loaders with
  | error error =>
      rw [found] at ended
      cases ended
      exact ⟨_, requested, attributed⟩
  | ok source =>
      rw [found] at ended
      obtain ⟨⟨verdict, left⟩, ensured, same⟩ := Option.map_eq_some_iff.1 ended
      obtain ⟨made, rest, within⟩ := Setting.ensure_regular regular _ _ _ _ _ ensured
      have follows := (requested.trans (setting.follows_newTemplate _ name source)).trans rest
      rw [List.append_nil] at follows
      have all : Event.Attributed (· = name) (setting.requests name ++ made) :=
        attributed.append (within.mono fun _ => False.elim)
      cases verdict with
      | error error =>
          cases same
          exact ⟨_, follows, all⟩
      | ok _ =>
          cases same
          have asked := Setting.load_mem_requests found
          exact ⟨_, follows.keep (Nat.le_refl _) (List.mem_append_left _ asked) found, all⟩

theorem Setting.fetch_regular (name : String) (eager : Bool) :
    (setting.fetch calls name eager).Regular setting (· = name) := by
  intro before result after ended
  cases kept : before.cache.get? name with
  | none =>
      rw [Setting.fetch_of_unknown kept] at ended
      exact Setting.load_regular regular name eager _ _ _ ended
  | some template =>
      rw [Setting.fetch_of_kept _ _ kept] at ended
      have checked := setting.follows_checks before template
      have unasked : Event.Attributed (· = name) (setting.checks before template) := by
        apply Event.Attributed.of_no_loads
        intro place other asked
        obtain ⟨_, _, impossible⟩ := Setting.mem_checks asked
        cases impossible
      by_cases fresh : setting.isFresh before template = true
      · rw [if_pos fresh] at ended
        obtain ⟨⟨verdict, left⟩, ensured, same⟩ := Option.map_eq_some_iff.1 ended
        obtain ⟨made, rest, within⟩ := Setting.ensure_regular regular _ _ _ _ _ ensured
        have all := unasked.append (within.mono fun _ => False.elim)
        cases verdict <;> cases same <;> exact ⟨_, checked.trans rest, all⟩
      · rw [if_neg fresh] at ended
        obtain ⟨made, rest, within⟩ := Setting.load_regular regular name eager _ _ _ ended
        exact ⟨_, checked.trans rest, unasked.append within⟩

/-- A lookup that is requested is attributed to the request. -/
theorem Setting.request_regular (name : String) (eager : Bool) :
    (setting.request calls name eager).Regular setting fun _ => False := by
  intro before result after ended
  have requested : setting.Follows before (before.note (.request name)) [.request name] :=
    setting.follows_note before ⟨nofun, nofun⟩
  obtain ⟨made, follows, attributed⟩ :=
    Setting.fetch_regular regular name eager (before.note (.request name)) _ _ ended
  refine ⟨_, requested.trans follows, ?_⟩
  intro place other asked
  have later : .load place other ∈ made := by simpa using asked
  rcases attributed place other later with rfl | alsoRequested
  · exact Or.inr List.mem_cons_self
  · exact Or.inr (List.mem_append_right _ alsoRequested)

theorem Setting.render_regular (template : Template) (data : Data) :
    (setting.render calls template data).Regular setting fun _ => False := by
  apply Run.Regular.blame
  apply (Run.regular_ofExcept _).bind
  intro value
  apply (Setting.compiledForm_regular regular template).bind
  intro form
  apply (Run.regular_ofExcept _).bind
  intro bindings
  exact regular.invoke _ _

theorem Scope.renderBlock_regular (scope : Scope) (name : String) :
    (scope.renderBlock calls name).Regular setting fun _ => False :=
  (Run.regular_ofExcept _).bind fun _ => regular.invoke _ _

theorem Scope.renderSuper_regular (scope : Scope) :
    (scope.renderSuper calls).Regular setting fun _ => False :=
  (Run.regular_ofExcept _).bind fun _ => regular.invoke _ _

theorem Op.run_regular (scope : Scope) (machine : Machine) (op : Op) :
    (op.run setting calls scope machine).Regular setting fun _ => False := by
  cases op with
  | text | lookup | const => exact Run.regular_ofExcept _
  | filter name count =>
      apply (Run.regular_ofExcept _).bind
      intro ⟨args, machine⟩
      apply (Run.regular_ofExcept _).bind
      intro ⟨value, machine⟩
      exact (Setting.applyFilter_regular name value args).bind fun _ => Run.regular_ofExcept _
  | emit => exact (Run.regular_ofExcept _).bind fun _ => Run.regular_ofExcept _
  | block name =>
      exact (Scope.renderBlock_regular regular scope name).bind fun _ => Run.regular_ofExcept _
  | super => exact (Scope.renderSuper_regular regular scope).bind fun _ => Run.regular_ofExcept _

theorem Code.runFrom_regular (scope : Scope) (machine : Machine) (code : Code) :
    (code.runFrom setting calls scope machine).Regular setting fun _ => False := by
  induction code generalizing machine with
  | nil => exact Run.regular_ofExcept _
  | cons op rest ih => exact (Op.run_regular regular scope machine op).bind ih

theorem Script.run_regular (scope : Scope) (script : Script) :
    (script.run setting calls scope).Regular setting fun _ => False := by
  induction script with
  | done result => exact Run.regular_ofExcept _
  | look next ih => exact Run.regular_state.bind fun _ => ih _
  | filter name value args next ih =>
      exact (Setting.applyFilter_regular name value args).attempt.bind ih
  | block name next ih => exact (Scope.renderBlock_regular regular scope name).attempt.bind ih
  | super next ih => exact (Scope.renderSuper_regular regular scope).attempt.bind ih
  | fetch name eager next ih =>
      exact (Setting.request_regular regular name eager).attempt.bind ih
  | clear next ih => exact Run.regular_forgetTemplates.bind fun _ => ih
  | compile template next ih =>
      exact (Setting.compileTemplate_regular regular template).attempt.bind ih
  | render template data next ih =>
      exact (Setting.render_regular regular template data).attempt.bind ih

theorem Procedure.run_regular (procedure : Procedure) (scope : Scope) :
    (procedure.run setting calls scope).Regular setting fun _ => False := by
  unfold Procedure.run
  split
  · exact (Code.runFrom_regular regular scope .initial _).bind fun _ => Run.regular_ofExcept _
  · exact Script.run_regular regular scope _

theorem Recipe.run_regular (compiler : Compiler) (recipe : Recipe) :
    (recipe.run setting calls compiler).Regular setting fun _ => False := by
  induction recipe with
  | done result => exact Run.regular_ofExcept _
  | make body next ih => exact (Run.regular_newProcedure body).bind ih
  | fetch name eager next ih => exact (Setting.request_regular regular name eager).attempt.bind ih
  | look next ih => exact Run.regular_state.bind fun _ => ih _
  | clear next ih => exact Run.regular_forgetTemplates.bind fun _ => ih
  | compile template next ih =>
      exact (Setting.compileTemplate_regular regular template).attempt.bind ih
  | render template data next ih =>
      exact (Setting.render_regular regular template data).attempt.bind ih
  | again name text next ih => exact (regular.compile compiler name text).attempt.bind ih

end Calls

/-- On every level, rendering and compiling are regular. -/
theorem Setting.calls_regular (setting : Setting) (level : Nat) :
    (setting.calls level).Regular setting := by
  induction level with
  | zero => exact ⟨fun _ _ => Run.regular_tooDeep, fun _ _ _ => Run.regular_tooDeep⟩
  | succ level ih =>
      constructor
      · intro procedure scope
        exact Procedure.run_regular ih procedure scope
      · intro compiler name text
        exact Recipe.run_regular ih compiler _

end Stencil
