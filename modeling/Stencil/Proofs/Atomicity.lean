import Stencil.Proofs.Regularity

set_option autoImplicit false

namespace Stencil

/-- So many loaders were asked in order, and led to the answer. -/
inductive Loader.Search (sources : Sources) (name : String) (loaders : List Loader) :
    Nat → Except Error Source → Prop where
  /-- None of them has anything. -/
  | exhausted (nothing : ∀ loader ∈ loaders, loader.get sources name = .ok none) :
      Search sources name loaders loaders.length (.error (.templateNotFound name))
  /-- One fails, and those before it have nothing. -/
  | failed (passed rest : List Loader) (loader : Loader) (error : Error)
      (order : loaders = passed ++ loader :: rest)
      (nothing : ∀ other ∈ passed, other.get sources name = .ok none)
      (fails : loader.get sources name = .error error) :
      Search sources name loaders (passed.length + 1) (.error error)
  /-- One has a source, and those before it have nothing. -/
  | found (passed rest : List Loader) (loader : Loader) (source : Source)
      (order : loaders = passed ++ loader :: rest)
      (nothing : ∀ other ∈ passed, other.get sources name = .ok none)
      (finds : loader.get sources name = .ok (some source)) :
      Search sources name loaders (passed.length + 1) (.ok source)

theorem Loader.Search.pass {sources : Sources} {name : String} {loader : Loader}
    {rest : List Loader} {asked : Nat} {answer : Except Error Source}
    (passes : loader.get sources name = .ok none) (search : Search sources name rest asked answer) :
    Search sources name (loader :: rest) (asked + 1) answer := by
  cases search with
  | exhausted nothing => exact .exhausted (List.forall_mem_cons.2 ⟨passes, nothing⟩)
  | failed passed others last error order nothing fails =>
      exact .failed (loader :: passed) others last error (by rw [order, List.cons_append])
        (List.forall_mem_cons.2 ⟨passes, nothing⟩) fails
  | found passed others last source order nothing finds =>
      exact .found (loader :: passed) others last source (by rw [order, List.cons_append])
        (List.forall_mem_cons.2 ⟨passes, nothing⟩) finds

theorem Loader.search (sources : Sources) (name : String) (loaders : List Loader) :
    Search sources name loaders (asked sources name loaders) (find sources name loaders) := by
  induction loaders with
  | nil => exact .exhausted fun _ impossible => absurd impossible List.not_mem_nil
  | cons loader rest ih =>
      have first : ∀ other ∈ ([] : List Loader), other.get sources name = .ok none :=
        fun _ impossible => absurd impossible List.not_mem_nil
      unfold asked find
      cases got : loader.get sources name with
      | error error => exact .failed [] rest loader error rfl first got
      | ok answer =>
          cases answer with
          | some source => exact .found [] rest loader source rfl first got
          | none => exact ih.pass got

/-- The checks of a lookup: one at most, of the template that is kept. -/
def Setting.checksOf (setting : Setting) (state : State) (name : String) : List Event :=
  (state.cache.get? name).elim [] (setting.checks state)

theorem Setting.checksOf_of_current {setting : Setting} {state : State} {name : String}
    {template : Template} (current : setting.Current state name template) :
    setting.checksOf state name = setting.checks state template := by
  unfold Setting.checksOf
  rw [current.1, Option.elim_some]

/-- A name that has no current template is loaded, once what is kept was checked. -/
theorem Setting.fetch_of_stale {setting : Setting} {state : State} {name : String}
    (stale : ∀ template, ¬ setting.Current state name template) (calls : Calls) (eager : Bool) :
    setting.fetch calls name eager state =
      setting.load calls name eager (state.log (setting.checksOf state name)) := by
  unfold Setting.checksOf
  cases kept : state.cache.get? name with
  | none => exact Setting.fetch_of_unknown kept eager
  | some template =>
      rw [Setting.fetch_of_kept _ _ kept, if_neg fun fresh => stale template ⟨kept, fresh⟩]
      rfl

/-- Without a current template, a lookup fails with what the loaders fail with. -/
theorem Setting.fetch_of_failed {setting : Setting} {state : State} {name : String} {error : Error}
    (stale : ∀ template, ¬ setting.Current state name template)
    (fails : Loader.find setting.sources name setting.environment.loaders = .error error)
    (calls : Calls) (eager : Bool) :
    setting.fetch calls name eager state =
      some (.error error, state.log (setting.checksOf state name ++ setting.requests name)) := by
  rw [Setting.fetch_of_stale stale, Setting.load_eq, fails, State.log_log]

/-- What compiling a template within a lookup does besides. Loaders are asked only for what was requested
meanwhile, by the compiler or by what it renders. The entry of a name for which none was asked stays,
unless all templates were forgotten. When there is nothing to compile, nothing is done. -/
structure Setting.Compiles (setting : Setting) (calls : Calls) (template : Template) (eager : Bool)
    (before : State) (verdict : Except Error Unit) (after : State) (made : List Event) : Prop where
  ran : setting.ensure calls template eager before = some (verdict, after)
  follows : setting.Follows before after made
  requested : ∀ place name, .load place name ∈ made → .request name ∈ made
  entry : ∀ name, (∀ place, .load place name ∉ made) → .clear ∉ made →
    after.cache.get? name = before.cache.get? name
  idle : eager = false ∨ (before.compiledForm? template.id).isSome → made = [] ∧ after = before

/-- What a lookup does that finds a current template. It asks no loader, and gives out the template
unless that fails to compile. The entry stays, unless the name is requested meanwhile or all templates
are forgotten. -/
def Setting.Reuses (setting : Setting) (calls : Calls) (name : String) (eager : Bool)
    (state : State) (template : Template) (result : Except Error Template) (after : State) : Prop :=
  let checks := setting.checksOf state name
  ∃ verdict made,
    setting.Compiles calls template eager (state.log checks) verdict after made ∧
    after.events = state.events ++ checks ++ made ∧
    result = verdict.map (fun _ => template) ∧
    (.request name ∉ made → .clear ∉ made → after.cache.get? name = some template)

/-- What a lookup does that finds none. It asks the loaders. If they fail, no entry changes; if they
have a source it becomes a new template. If that fails to compile, the entry of the name is what it was,
unless the name was requested meanwhile or all templates were forgotten. If not, the template is kept
and given out, and other entries are as the compiler has left them. -/
def Setting.Renews (setting : Setting) (calls : Calls) (name : String) (eager : Bool)
    (state : State) (result : Except Error Template) (after : State) : Prop :=
  let checks := setting.checksOf state name
  ∃ asked answer, Loader.Search setting.sources name setting.environment.loaders asked answer ∧
    let requests := Loader.requests 0 asked name
    match answer with
    | .error error =>
      result = .error error ∧ after.events = state.events ++ checks ++ requests ∧
      after.cache = state.cache
    | .ok source =>
      let issued := (state.log (checks ++ requests)).newTemplate name source
      ∃ verdict left made,
        setting.Compiles calls issued.1 eager issued.2 verdict left made ∧
        after.events = state.events ++ checks ++ requests ++ made ∧
        match verdict with
        | .error error =>
          result = .error error ∧ after = left ∧
          (.request name ∉ made → .clear ∉ made →
            after.cache.get? name = state.cache.get? name)
        | .ok _ =>
          result = .ok issued.1 ∧ after.cache.get? name = some issued.1 ∧
          ∀ other, other ≠ name → after.cache.get? other = left.cache.get? other

section Effects

variable {setting : Setting} {calls : Calls} (regular : calls.Regular setting)
include regular

theorem Setting.compiles {template : Template} {eager : Bool} {before after : State}
    {verdict : Except Error Unit}
    (ended : setting.ensure calls template eager before = some (verdict, after)) :
    ∃ made, setting.Compiles calls template eager before verdict after made := by
  by_cases nothing : eager = false ∨ (before.compiledForm? template.id).isSome
  · have same : after = before := by
      rcases nothing with rfl | compiled
      · cases ended
        rfl
      · obtain ⟨form, kept⟩ := Option.isSome_iff_exists.1 compiled
        cases eager with
        | false =>
            cases ended
            rfl
        | true =>
            change setting.compileTemplate calls template before = _ at ended
            rw [Setting.compileTemplate_eq, Setting.compiledForm_of_some kept] at ended
            cases ended
            rfl
    subst same
    exact ⟨[], ended, .refl setting after, nofun, fun _ _ _ => rfl, fun _ => ⟨rfl, rfl⟩⟩
  · obtain ⟨made, follows, attributed⟩ := Setting.ensure_regular regular _ _ _ _ _ ended
    refine ⟨made, ended, follows, ?_, ?_, fun something => absurd something nothing⟩
    · exact fun place name asked => (attributed place name asked).resolve_left id
    · intro name unasked kept
      rcases follows.entries name with
        unchanged | ⟨_, place, _, _, _, asked, _⟩ | ⟨_, cleared⟩
      · exact unchanged
      · exact absurd asked (unasked place)
      · exact absurd cleared kept

variable {name : String} {eager : Bool} {state after : State} {result : Except Error Template}
variable (ended : setting.fetch calls name eager state = some (result, after))
include ended

theorem Setting.reuses {template : Template} (current : setting.Current state name template) :
    setting.Reuses calls name eager state template result after := by
  unfold Setting.Reuses
  rw [Setting.checksOf_of_current current]
  rw [Setting.fetch_of_kept _ _ current.1, if_pos current.2] at ended
  obtain ⟨⟨verdict, left⟩, ensured, same⟩ := Option.map_eq_some_iff.1 ended
  obtain ⟨made, compiles⟩ := Setting.compiles regular ensured
  have events := compiles.follows.events
  rw [State.events_log] at events
  have stays : .request name ∉ made → .clear ∉ made → left.cache.get? name = some template := by
    intro unrequested kept
    refine (compiles.entry name ?_ kept).trans current.1
    exact fun place asked => unrequested (compiles.requested place name asked)
  cases verdict <;> cases same <;> exact ⟨_, made, compiles, events, rfl, stays⟩

theorem Setting.renews (stale : ∀ template, ¬ setting.Current state name template) :
    setting.Renews calls name eager state result after := by
  rw [Setting.fetch_of_stale stale, Setting.load_eq, State.log_log] at ended
  have search := Loader.search setting.sources name setting.environment.loaders
  cases found : Loader.find setting.sources name setting.environment.loaders with
  | error error =>
      rw [found] at search ended
      cases ended
      refine ⟨_, _, search, rfl, ?_, rfl⟩
      rw [State.events_log, List.append_assoc]
      rfl
  | ok source =>
      rw [found] at search ended
      obtain ⟨⟨verdict, left⟩, ensured, same⟩ := Option.map_eq_some_iff.1 ended
      obtain ⟨made, compiles⟩ := Setting.compiles regular ensured
      have events : left.events =
          state.events ++ setting.checksOf state name ++ setting.requests name ++ made := by
        refine compiles.follows.events.trans ?_
        change (state.log (setting.checksOf state name ++ setting.requests name)).events ++ made = _
        simp only [State.events_log, List.append_assoc]
      refine ⟨_, _, search, verdict, left, made, compiles, ?_⟩
      cases verdict with
      | error error =>
          cases same
          refine ⟨events, rfl, rfl, ?_⟩
          intro unrequested kept
          refine compiles.entry name ?_ kept
          exact fun place asked => unrequested (compiles.requested place name asked)
      | ok _ =>
          cases same
          refine ⟨events, rfl, ?_, ?_⟩
          · exact (State.cache_keep left _ name).trans (if_pos rfl)
          · intro other differs
            exact (State.cache_keep left _ other).trans (if_neg differs)

end Effects

/-- The compiler that has all templates forgotten, and puts out the text. -/
def Compiler.forgetful : Compiler :=
  ⟨fun _ text => .clear (.build [(Module.rootName, .fresh (.code [.text text]))])⟩

def State.loads (state : State) (name : String) : Nat :=
  state.events.countP fun
    | .load _ other => other = name
    | _ => false

end Stencil
