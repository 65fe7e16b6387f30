import Stencil.Proofs.Lookup

set_option autoImplicit false

namespace Stencil

/-- Follows a script as if the template was kept already. A request for its name has no end, and neither
has it when all templates are to be forgotten, or when the template itself is to be used. -/
def Script.runApart (setting : Setting) (calls : Calls) (scope : Scope) (template : Template) :
    Script → Run String
  | .done result => .ofExcept result
  | .look next => do
    let state ← Run.state
    runApart setting calls scope template
      (next (scope.view (setting.overview (state.keep template))))
  | .filter name value args next => do
    let result ← Run.attempt (setting.applyFilter name value args)
    runApart setting calls scope template (next result)
  | .block name next => do
    let result ← Run.attempt (scope.renderBlock calls name)
    runApart setting calls scope template (next result)
  | .super next => do
    let result ← Run.attempt (scope.renderSuper calls)
    runApart setting calls scope template (next result)
  | .fetch name eager next =>
    if name = template.name then .tooDeep
    else do
      let result ← Run.attempt (setting.request calls name eager)
      runApart setting calls scope template (next result)
  | .clear _ => .tooDeep
  | .compile other next =>
    if other.id = template.id then .tooDeep
    else do
      let result ← Run.attempt (setting.compileTemplate calls other)
      runApart setting calls scope template (next result)
  | .render other data next =>
    if other.id = template.id then .tooDeep
    else do
      let result ← Run.attempt (setting.render calls other data)
      runApart setting calls scope template (next result)

/-- Follows a recipe in the same way. -/
def Recipe.runApart (setting : Setting) (calls : Calls) (compiler : Compiler)
    (template : Template) : Recipe → Run Module
  | .done result => .ofExcept result
  | .make body next => do
    let procedure ← Run.change (·.newProcedure body)
    runApart setting calls compiler template (next procedure)
  | .fetch name eager next =>
    if name = template.name then .tooDeep
    else do
      let result ← Run.attempt (setting.request calls name eager)
      runApart setting calls compiler template (next result)
  | .look next => do
    let state ← Run.state
    runApart setting calls compiler template (next (setting.overview (state.keep template)))
  | .clear _ => .tooDeep
  | .compile other next =>
    if other.id = template.id then .tooDeep
    else do
      let result ← Run.attempt (setting.compileTemplate calls other)
      runApart setting calls compiler template (next result)
  | .render other data next =>
    if other.id = template.id then .tooDeep
    else do
      let result ← Run.attempt (setting.render calls other data)
      runApart setting calls compiler template (next result)
  | .again name text next => do
    let result ← Run.attempt (calls.compile compiler name text)
    runApart setting calls compiler template (next result)

def Procedure.runApart (setting : Setting) (calls : Calls) (template : Template)
    (procedure : Procedure) (scope : Scope) : Run String :=
  match procedure.body with
  | .code ops => Code.run setting calls scope ops
  | .native script => script.runApart setting calls scope template

/-- The calls of a level for compilations that go on as if the template was kept already. -/
def Setting.callsApart (setting : Setting) (template : Template) : Nat → Calls
  | 0 => ⟨fun _ _ => .tooDeep, fun _ _ _ => .tooDeep⟩
  | level + 1 => {
      invoke := fun procedure scope =>
        procedure.runApart setting (setting.callsApart template level) template scope
      compile := fun compiler name text =>
        (compiler.recipe name text).runApart setting (setting.callsApart template level) compiler
          template }

/-- Compiling the template from the state goes on as if it was kept already, with no request for its name
and without having all templates forgotten. -/
def Setting.CompilesApart (setting : Setting) (level : Nat) (template : Template) (state : State) :
    Prop :=
  setting.compileTemplate (setting.calls level) template state =
    setting.compileTemplate (setting.callsApart template level) template state

/-- What two states keep under the name of a new template: the first what was there before, and the
second the template. -/
structure Slot where
  old : Option Template
  new : Template

/-- The state, and the one that has the other cache instead, differ in the slot alone. Nobody can
reach the new template but by its name, and it is not compiled. -/
structure State.Beside (slot : Slot) (state : State) (cache : Dict Template) : Prop where
  others : ∀ other, other ≠ slot.new.name → cache.get? other = state.cache.get? other
  old : state.cache.get? slot.new.name = slot.old
  new : cache.get? slot.new.name = some slot.new
  issued : slot.new.id < state.templates
  apart : ∀ other template, other ≠ slot.new.name → state.cache.get? other = some template →
    template.id ≠ slot.new.id
  unknown : state.compiledForm? slot.new.id = none

/-- From states that differ in the slot alone the run ends with the same result, in states that
differ in the slot alone, or it has an end from neither. -/
def Run.Blind {α : Type} (slot : Slot) (right : α → Prop) (run : Run α) : Prop :=
  ∀ state cache, State.Beside slot state cache →
    (run state = none ∧ run { state with cache } = none) ∨
    ∃ result after final, run state = some (result, after) ∧
      run { state with cache } = some (result, { after with cache := final }) ∧
      State.Beside slot after final ∧ ∀ value, result = .ok value → right value

namespace State.Beside

variable {slot : Slot} {state : State} {cache : Dict Template}

theorem log (beside : state.Beside slot cache) (made : List Event) :
    (state.log made).Beside slot cache :=
  ⟨beside.others, beside.old, beside.new, beside.issued, beside.apart, beside.unknown⟩

theorem newProcedure (beside : state.Beside slot cache) (body : Body) :
    (state.newProcedure body).2.Beside slot cache :=
  ⟨beside.others, beside.old, beside.new, beside.issued, beside.apart, beside.unknown⟩

theorem newTemplate (beside : state.Beside slot cache) (name : String) (source : Source) :
    (state.newTemplate name source).2.Beside slot cache :=
  ⟨beside.others, beside.old, beside.new, Nat.lt_succ_of_lt beside.issued, beside.apart,
    beside.unknown⟩

/-- A template with another name may be kept in both states. -/
theorem keep (beside : state.Beside slot cache) {template : Template}
    (named : template.name ≠ slot.new.name) (differs : template.id ≠ slot.new.id) :
    (state.keep template).Beside slot (cache.insert template.name template) where
  others := by
    intro other elsewhere
    rw [Dict.get?_insert, State.cache_keep, beside.others other elsewhere]
  old := by
    rw [State.cache_keep, if_neg (Ne.symm named), beside.old]
  new := by
    rw [Dict.get?_insert, if_neg (Ne.symm named), beside.new]
  issued := beside.issued
  apart := by
    intro other kept elsewhere entry
    rw [State.cache_keep] at entry
    split at entry
    · obtain rfl := Option.some.inj entry
      exact differs
    · exact beside.apart other kept elsewhere entry
  unknown := beside.unknown

theorem keepCompiled (beside : state.Beside slot cache) {id : Nat} (differs : id ≠ slot.new.id)
    (form : Compiled) : (state.keepCompiled id form).Beside slot cache := by
  have unknown : (state.keepCompiled id form).compiledForm? slot.new.id = none := by
    rw [State.compiledForm?_keepCompiled, if_neg (Ne.symm differs), beside.unknown]
  obtain ⟨compiled, only⟩ := state.keepCompiled_only id form
  rw [only] at unknown ⊢
  exact ⟨beside.others, beside.old, beside.new, beside.issued, beside.apart, unknown⟩

end State.Beside

theorem State.keepCompiled_cache (state : State) (cache : Dict Template) (id : Nat)
    (form : Compiled) :
    State.keepCompiled { state with cache } id form = { state.keepCompiled id form with cache } := by
  have same : State.compiledForm? { state with cache } id = state.compiledForm? id := rfl
  unfold State.keepCompiled
  rw [same]
  cases state.compiledForm? id <;> rfl

section Blind

variable {α β : Type} {slot : Slot} {right : α → Prop} {final : β → Prop}

theorem Run.blind_ofExcept {result : Except Error α}
    (correct : ∀ value, result = .ok value → right value) : (Run.ofExcept result).Blind slot right :=
  fun state cache beside => Or.inr ⟨result, state, cache, rfl, rfl, beside, correct⟩

theorem Run.blind_any (result : Except Error α) : (Run.ofExcept result).Blind slot fun _ => True :=
  Run.blind_ofExcept fun _ _ => trivial

theorem Run.blind_tooDeep : (Run.tooDeep : Run α).Blind slot right :=
  fun _ _ _ => Or.inl ⟨rfl, rfl⟩

theorem Run.blind_unless {P : Prop} [Decidable P] {run : Run α}
    (blind : ¬ P → run.Blind slot right) : (if P then .tooDeep else run).Blind slot right := by
  split
  · exact Run.blind_tooDeep
  · exact blind ‹¬ P›

theorem Run.Blind.bind {run : Run α} {next : α → Run β} (first : run.Blind slot right)
    (rest : ∀ value, right value → (next value).Blind slot final) :
    (run >>= next).Blind slot final := by
  intro state cache beside
  rcases first state cache beside with ⟨endless, alsoEndless⟩ |
    ⟨result, middle, between, ended, alsoEnded, beside, correct⟩
  · exact Or.inl ⟨Run.bind_of_none next endless, Run.bind_of_none next alsoEndless⟩
  · cases result with
    | error error =>
        refine Or.inr ⟨.error error, middle, between, Run.bind_of_error next ended,
          Run.bind_of_error next alsoEnded, beside, ?_⟩
        intro value impossible
        cases impossible
    | ok value =>
        rw [Run.bind_of_ok next ended, Run.bind_of_ok next alsoEnded]
        exact rest value (correct value rfl) middle between beside

theorem Run.Blind.attempt {run : Run α} (blind : run.Blind slot right) :
    run.attempt.Blind slot fun _ => True := by
  intro state cache beside
  rcases blind state cache beside with ⟨endless, alsoEndless⟩ |
    ⟨result, after, last, ended, alsoEnded, beside, -⟩
  · exact Or.inl ⟨Run.attempt_of_none endless, Run.attempt_of_none alsoEndless⟩
  · exact Or.inr ⟨.ok result, after, last, Run.attempt_of_some ended,
      Run.attempt_of_some alsoEnded, beside, fun _ _ => trivial⟩

theorem Run.Blind.blame {run : Run α} (blind : run.Blind slot right) (name : String) :
    (run.blame name).Blind slot right := by
  intro state cache beside
  unfold Run.blame
  rcases blind state cache beside with ⟨endless, alsoEndless⟩ |
    ⟨result, after, last, ended, alsoEnded, beside, correct⟩
  · exact Or.inl ⟨by rw [endless]; rfl, by rw [alsoEndless]; rfl⟩
  · refine Or.inr ⟨_, after, last, by rw [ended]; rfl, by rw [alsoEnded]; rfl, beside, ?_⟩
    intro value same
    cases result with
    | error error => cases same
    | ok _ => exact correct value same

end Blind

/-- Calls that do not see the slot. -/
structure Calls.Blind (slot : Slot) (calls : Calls) : Prop where
  invoke : ∀ procedure scope, (calls.invoke procedure scope).Blind slot fun _ => True
  compile : ∀ compiler name text, (calls.compile compiler name text).Blind slot fun _ => True

section Calls

variable (setting : Setting) {calls : Calls} {slot : Slot} (blind : calls.Blind slot)

theorem Run.blind_note (event : Event) : (Run.note event).Blind slot fun _ => True :=
  fun _ cache beside => Or.inr ⟨.ok (), _, cache, rfl, rfl, beside.log [event], fun _ _ => trivial⟩

theorem Run.blind_newProcedure (body : Body) :
    (Run.change (·.newProcedure body)).Blind slot fun _ => True :=
  fun _ cache beside =>
    Or.inr ⟨_, _, cache, rfl, rfl, beside.newProcedure body, fun _ _ => trivial⟩

/-- Both states look the same once the template is kept in them. -/
theorem Setting.overview_beside {state : State} {cache : Dict Template}
    (beside : state.Beside slot cache) :
    setting.overview (({ state with cache } : State).keep slot.new) =
      setting.overview (state.keep slot.new) := by
  have same : cache.insert slot.new.name slot.new = state.cache.insert slot.new.name slot.new := by
    apply Dict.ext
    intro other
    rw [Dict.get?_insert, Dict.get?_insert]
    split
    · rfl
    · rename_i elsewhere
      exact beside.others other elsewhere
  exact congrArg (fun kept => setting.overview { state with cache := kept }) same

theorem Run.blind_overview {α : Type} {right : α → Prop} {next : Overview → Run α}
    (rest : ∀ view, (next view).Blind slot right) :
    (Run.state >>= fun state => next (setting.overview (state.keep slot.new))).Blind slot right := by
  intro state cache beside
  have same : next (setting.overview (({ state with cache } : State).keep slot.new))
      { state with cache } = next (setting.overview (state.keep slot.new)) { state with cache } := by
    rw [setting.overview_beside beside]
  rcases rest (setting.overview (state.keep slot.new)) state cache beside with
    ⟨endless, alsoEndless⟩ | ⟨result, after, last, ended, alsoEnded, right⟩
  · exact Or.inl ⟨endless, same.trans alsoEndless⟩
  · exact Or.inr ⟨result, after, last, ended, same.trans alsoEnded, right⟩

/-- A template that is issued is not the one in the slot. -/
theorem Run.blind_newTemplate (name : String) (source : Source) :
    (Run.change (·.newTemplate name source)).Blind slot fun template =>
      template.name = name ∧ template.id ≠ slot.new.id := by
  intro state cache beside
  refine Or.inr ⟨_, _, cache, rfl, rfl, beside.newTemplate name source, ?_⟩
  intro template same
  cases same
  exact ⟨rfl, Nat.ne_of_gt beside.issued⟩

theorem Setting.resolve_blind (name : String) : (setting.resolve name).Blind slot fun _ => True :=
  fun _ cache beside => Or.inr ⟨_, _, cache, setting.resolveFrom_eq 0 name _ _,
    setting.resolveFrom_eq 0 name _ _, beside.log _, fun _ _ => trivial⟩

theorem Setting.applyFilter_blind (name : String) (value : Value) (args : List Value) :
    (setting.applyFilter name value args).Blind slot fun _ => True := by
  unfold Setting.applyFilter
  split
  · exact Run.blind_any _
  · exact (Run.blind_note _).bind fun _ _ => Run.blind_any _

include blind

theorem Setting.compile_blind (template : Template) :
    (setting.compile calls template).Blind slot fun _ => True := by
  unfold Setting.compile
  split
  · exact Run.blind_any _
  · rename_i compiler known
    have called : (Setting.callCompiler calls compiler (some template.id) template.name
        template.source.text).Blind slot fun _ => True := by
      apply (Run.blind_note _).bind
      intro _ _
      apply (blind.compile compiler _ _).attempt.bind
      intro result _
      exact (Run.blind_note _).bind fun _ _ => Run.blind_any result
    apply called.attempt.bind
    intro result _
    exact (Run.blind_any _).bind fun _ _ => Run.blind_any _

theorem Setting.compiledForm_blind {template : Template} (differs : template.id ≠ slot.new.id) :
    (setting.compiledForm calls template).Blind slot fun _ => True := by
  intro state cache beside
  have same : State.compiledForm? { state with cache } template.id =
      state.compiledForm? template.id := rfl
  cases known : state.compiledForm? template.id with
  | some form =>
      rw [known] at same
      exact Or.inr ⟨_, state, cache, Setting.compiledForm_of_some known setting calls,
        Setting.compiledForm_of_some same setting calls, beside, fun _ _ => trivial⟩
  | none =>
      rw [known] at same
      rw [Setting.compiledForm_of_none known, Setting.compiledForm_of_none same]
      rcases setting.compile_blind blind template state cache beside with
        ⟨endless, alsoEndless⟩ | ⟨result, after, last, ended, alsoEnded, beside, -⟩
      · exact Or.inl ⟨by rw [endless]; rfl, by rw [alsoEndless]; rfl⟩
      · rw [ended, alsoEnded]
        cases result with
        | error error => exact Or.inr ⟨_, after, last, rfl, rfl, beside, fun _ _ => trivial⟩
        | ok form =>
            refine Or.inr ⟨_, _, last, rfl, ?_, beside.keepCompiled differs form,
              fun _ _ => trivial⟩
            rw [← State.keepCompiled_cache]
            rfl

theorem Setting.compileTemplate_blind {template : Template} (differs : template.id ≠ slot.new.id) :
    (setting.compileTemplate calls template).Blind slot fun _ => True := by
  apply Run.Blind.blame
  exact (setting.compiledForm_blind blind differs).bind fun _ _ => Run.blind_any _

theorem Setting.ensure_blind {template : Template} (differs : template.id ≠ slot.new.id)
    (eager : Bool) : (setting.ensure calls template eager).Blind slot fun _ => True := by
  cases eager with
  | false => exact Run.blind_any _
  | true => exact setting.compileTemplate_blind blind differs

theorem Setting.load_blind {name : String} (elsewhere : name ≠ slot.new.name) (eager : Bool) :
    (setting.load calls name eager).Blind slot fun _ => True := by
  apply (setting.resolve_blind name).bind
  intro source _
  apply (Run.blind_newTemplate name source).bind
  rintro template ⟨named, differs⟩
  have kept : (do Run.update (·.keep template); return template : Run Template).Blind slot
      fun _ => True := by
    rw [← named] at elsewhere
    intro state cache beside
    exact Or.inr ⟨_, _, _, rfl, rfl, beside.keep elsewhere differs, fun _ _ => trivial⟩
  have ensured := setting.ensure_blind blind differs eager
  cases eager with
  | false => exact kept
  | true => exact ensured.bind fun _ _ => kept

/-- A lookup of another name does not see the slot. -/
theorem Setting.fetch_blind {name : String} (elsewhere : name ≠ slot.new.name) (eager : Bool) :
    (setting.fetch calls name eager).Blind slot fun _ => True := by
  intro state cache beside
  have loaded := setting.load_blind blind elsewhere eager
  have same : ({ state with cache } : State).cache.get? name = state.cache.get? name :=
    beside.others name elsewhere
  cases kept : state.cache.get? name with
  | none =>
      rw [kept] at same
      rw [Setting.fetch_of_unknown kept, Setting.fetch_of_unknown same]
      exact loaded state cache beside
  | some template =>
      rw [kept] at same
      have isFresh : setting.isFresh { state with cache } template =
          setting.isFresh state template := rfl
      have checks : setting.checks { state with cache } template =
          setting.checks state template := rfl
      rw [Setting.fetch_of_kept _ _ kept, Setting.fetch_of_kept _ _ same, isFresh, checks]
      have checked := beside.log (setting.checks state template)
      by_cases fresh : setting.isFresh state template = true
      · simp only [fresh, ↓reduceIte]
        have differs := beside.apart name template elsewhere kept
        rcases setting.ensure_blind blind differs eager _ cache checked with
          ⟨endless, alsoEndless⟩ | ⟨result, after, last, ended, alsoEnded, beside, -⟩
        · exact Or.inl ⟨by rw [endless]; rfl, Option.map_eq_none_iff.2 alsoEndless⟩
        · have alsoChecked : setting.ensure calls template eager
              (State.log { state with cache } (setting.checks state template)) =
                some (result, { after with cache := last }) := alsoEnded
          rw [ended, alsoChecked]
          cases result with
          | error error => exact Or.inr ⟨_, after, last, rfl, rfl, beside, fun _ _ => trivial⟩
          | ok _ => exact Or.inr ⟨_, after, last, rfl, rfl, beside, fun _ _ => trivial⟩
      · simp only [fresh, Bool.false_eq_true, ↓reduceIte]
        exact loaded _ cache checked

theorem Setting.request_blind {name : String} (elsewhere : name ≠ slot.new.name) (eager : Bool) :
    (setting.request calls name eager).Blind slot fun _ => True :=
  (Run.blind_note _).bind fun _ _ => setting.fetch_blind blind elsewhere eager

theorem Setting.render_blind {template : Template} (differs : template.id ≠ slot.new.id)
    (data : Data) : (setting.render calls template data).Blind slot fun _ => True := by
  apply Run.Blind.blame
  apply (Run.blind_any _).bind
  intro value _
  apply (setting.compiledForm_blind blind differs).bind
  intro form _
  apply (Run.blind_any _).bind
  intro bindings _
  exact blind.invoke _ _

theorem Recipe.runApart_blind (compiler : Compiler) (recipe : Recipe) :
    (recipe.runApart setting calls compiler slot.new).Blind slot fun _ => True := by
  induction recipe with
  | done result => exact Run.blind_any result
  | make body next ih => exact (Run.blind_newProcedure body).bind fun procedure _ => ih procedure
  | fetch name eager next ih =>
      apply Run.blind_unless
      intro elsewhere
      exact (setting.request_blind blind elsewhere eager).attempt.bind fun result _ => ih result
  | look next ih => exact Run.blind_overview setting ih
  | clear next ih => exact Run.blind_tooDeep
  | compile other next ih =>
      apply Run.blind_unless
      intro differs
      exact (setting.compileTemplate_blind blind differs).attempt.bind fun result _ => ih result
  | render other data next ih =>
      apply Run.blind_unless
      intro differs
      exact (setting.render_blind blind differs data).attempt.bind fun result _ => ih result
  | again name text next ih =>
      exact (blind.compile compiler name text).attempt.bind fun result _ => ih result

theorem Scope.renderBlock_blind (scope : Scope) (name : String) :
    (scope.renderBlock calls name).Blind slot fun _ => True :=
  (Run.blind_any _).bind fun _ _ => blind.invoke _ _

theorem Scope.renderSuper_blind (scope : Scope) :
    (scope.renderSuper calls).Blind slot fun _ => True :=
  (Run.blind_any _).bind fun _ _ => blind.invoke _ _

theorem Op.run_blind (setting : Setting) (scope : Scope) (machine : Machine) (op : Op) :
    (op.run setting calls scope machine).Blind slot fun _ => True := by
  cases op with
  | text | lookup | const => exact Run.blind_any _
  | filter name count =>
      apply (Run.blind_any _).bind
      intro ⟨args, machine⟩ _
      apply (Run.blind_any _).bind
      intro ⟨value, machine⟩ _
      exact (setting.applyFilter_blind name value args).bind fun _ _ => Run.blind_any _
  | emit => exact (Run.blind_any _).bind fun _ _ => Run.blind_any _
  | block name => exact (scope.renderBlock_blind blind name).bind fun _ _ => Run.blind_any _
  | super => exact (scope.renderSuper_blind blind).bind fun _ _ => Run.blind_any _

theorem Code.runFrom_blind (setting : Setting) (scope : Scope) (machine : Machine) (code : Code) :
    (code.runFrom setting calls scope machine).Blind slot fun _ => True := by
  induction code generalizing machine with
  | nil => exact Run.blind_any _
  | cons op rest ih => exact (op.run_blind blind setting scope machine).bind fun machine _ => ih machine

theorem Script.runApart_blind (setting : Setting) (scope : Scope) (script : Script) :
    (script.runApart setting calls scope slot.new).Blind slot fun _ => True := by
  induction script with
  | done result => exact Run.blind_any result
  | look next ih => exact Run.blind_overview setting fun view => ih (scope.view view)
  | filter name value args next ih =>
      exact (setting.applyFilter_blind name value args).attempt.bind fun result _ => ih result
  | block name next ih =>
      exact (scope.renderBlock_blind blind name).attempt.bind fun result _ => ih result
  | super next ih => exact (scope.renderSuper_blind blind).attempt.bind fun result _ => ih result
  | fetch name eager next ih =>
      apply Run.blind_unless
      intro elsewhere
      exact (setting.request_blind blind elsewhere eager).attempt.bind fun result _ => ih result
  | clear next ih => exact Run.blind_tooDeep
  | compile other next ih =>
      apply Run.blind_unless
      intro differs
      exact (setting.compileTemplate_blind blind differs).attempt.bind fun result _ => ih result
  | render other data next ih =>
      apply Run.blind_unless
      intro differs
      exact (setting.render_blind blind differs data).attempt.bind fun result _ => ih result

theorem Procedure.runApart_blind (setting : Setting) (procedure : Procedure) (scope : Scope) :
    (procedure.runApart setting calls slot.new scope).Blind slot fun _ => True := by
  unfold Procedure.runApart
  split
  · exact (Code.runFrom_blind blind setting scope .initial _).bind fun _ _ => Run.blind_any _
  · exact Script.runApart_blind blind setting scope _

end Calls

/-- On every level, calls that go on as if the new template was kept do not see the slot. -/
theorem Setting.callsApart_blind (setting : Setting) (slot : Slot) (level : Nat) :
    (setting.callsApart slot.new level).Blind slot := by
  induction level with
  | zero => exact ⟨fun _ _ => Run.blind_tooDeep, fun _ _ _ => Run.blind_tooDeep⟩
  | succ level ih =>
      constructor
      · intro procedure scope
        exact Procedure.runApart_blind ih setting procedure scope
      · intro compiler name text
        exact Recipe.runApart_blind setting ih compiler _

/-- Compiling the new template of a slot does not see the slot either, and is the only way to have it
compiled. -/
theorem Setting.compileNew (setting : Setting) {slot : Slot} {state : State} {cache : Dict Template}
    (beside : state.Beside slot cache) (level : Nat) :
    let run := setting.compileTemplate (setting.callsApart slot.new level) slot.new
    (run state = none ∧ run { state with cache } = none) ∨
    ∃ result after final, run state = some (result, after) ∧
      run { state with cache } = some (result, { after with cache := final }) ∧
      (∀ other, other ≠ slot.new.name → final.get? other = after.cache.get? other) ∧
      after.cache.get? slot.new.name = slot.old ∧ final.get? slot.new.name = some slot.new ∧
      (after.compiledForm? slot.new.id).isSome = result.toBool := by
  intro run
  have same : State.compiledForm? { state with cache } slot.new.id = none := beside.unknown
  have compiles := setting.compile_blind (setting.callsApart_blind slot level)
    slot.new state cache beside
  simp only [run, Setting.compileTemplate_eq, Setting.compiledForm_of_none beside.unknown,
    Setting.compiledForm_of_none same]
  rcases compiles with ⟨endless, alsoEndless⟩ | ⟨result, after, last, ended, alsoEnded, beside, -⟩
  · exact Or.inl ⟨by rw [endless]; rfl, by rw [alsoEndless]; rfl⟩
  · rw [ended, alsoEnded]
    cases result with
    | error error =>
        refine Or.inr ⟨_, after, last, rfl, rfl, beside.others, beside.old, beside.new, ?_⟩
        rw [beside.unknown]
        rfl
    | ok form =>
        have alsoKept := after.keepCompiled_cache last slot.new.id form
        have known : (after.keepCompiled slot.new.id form).compiledForm? slot.new.id =
            some form := by
          rw [State.compiledForm?_keepCompiled, if_pos rfl, beside.unknown, Option.getD_none]
        refine Or.inr ⟨.ok (), after.keepCompiled slot.new.id form, last, rfl, ?_, ?_, ?_,
          beside.new, ?_⟩
        · rw [← alsoKept]
          rfl
        · obtain ⟨compiled, only⟩ := after.keepCompiled_only slot.new.id form
          rw [only]
          exact beside.others
        · obtain ⟨compiled, only⟩ := after.keepCompiled_only slot.new.id form
          rw [only]
          exact beside.old
        · rw [known]
          rfl

end Stencil
