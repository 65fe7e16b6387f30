import Stencil.Proofs.Atomicity
import Stencil.Proofs.Instances
import Stencil.Proofs.Apart

set_option autoImplicit false

namespace Stencil

/-- Templates that are kept or compiled were given out. -/
structure State.Numbered (state : State) : Prop where
  cached : ∀ name template, state.cache.get? name = some template → template.id < state.templates
  forms : ∀ id form, state.compiledForm? id = some form → id < state.templates

/-- The states of sessions are such. -/
theorem Session.numbered {limit : Nat} {environment : Environment} {sources : Sources}
    {activities : List Activity} {session : Session} (honest : environment.Honest)
    (allHonest : ∀ activity ∈ activities, activity.Honest)
    (lived : (Session.opened environment sources).live limit activities = some session) :
    session.engine.state.Numbered := by
  obtain ⟨issued, -, registers⟩ := (Session.Registers.opened honest sources).live allHonest lived
  obtain ⟨made, grows⟩ := Session.live_grows lived
  have given : ∀ template ∈ issued, template.id < session.engine.state.templates := by
    intro template member
    rw [← List.mem_range, ← registers.state.numbered]
    exact List.mem_map_of_mem member
  constructor
  · intro name template kept
    exact given template (registers.state.cached name template kept)
  · intro id form kept
    by_contra beyond
    have uncalled : ∀ name text, .compile (some id) name text ∉ made := by
      intro name text called
      have onRecord : .compile (some id) name text ∈ session.engine.state.events := by
        rw [grows.events]
        exact List.mem_append_right _ called
      obtain ⟨template, member, rfl, -⟩ :=
        registers.state.called id name text (List.mem_reverse.1 onRecord)
      exact beyond (given template member)
    rw [grows.forms, grows.no_form uncalled] at kept
    cases kept

/-- Looks up a template, and compiles it after that. -/
def Setting.fetchCompiled (setting : Setting) (calls : Calls) (name : String) : Run Template := do
  let template ← setting.fetch calls name false
  setting.compileTemplate calls template
  return template

/-- A lookup of the name loads the source. -/
def Setting.Loads (setting : Setting) (state : State) (name : String) (source : Source) : Prop :=
  (∀ template, ¬ setting.Current state name template) ∧
  Loader.find setting.sources name setting.environment.loaders = .ok source

/-- The new template of a lookup that loads the source, and the state in which it is new. -/
def Setting.issue (setting : Setting) (state : State) (name : String) (source : Source) :
    Template × State :=
  (state.log (setting.checksOf state name ++ setting.requests name)).newTemplate name source

/-- Should a lookup of the name load anything, then compiling it goes on apart from the entry of the
name, both before it is kept and after. -/
def Setting.LoadsApart (setting : Setting) (level : Nat) (name : String) (state : State) : Prop :=
  ∀ source, setting.Loads state name source →
    let issued := setting.issue state name source
    setting.CompilesApart level issued.1 issued.2 ∧
    setting.CompilesApart level issued.1 (issued.2.keep issued.1)

/-- What an eager lookup with the result makes of the entry of the name, and what a lazy one does
with a compilation after it. That is the same for both, and it is the template that is given out, if that
was loaded. But if a source was loaded and its template fails to compile, then the first leaves the entry
as it was, and the second keeps the template uncompiled. -/
def Setting.Leaves (setting : Setting) (name : String) (state after : State)
    (eager lazy : Option Template) : Except Error Template → Prop
  | .ok template =>
    lazy = eager ∧ ((∃ source, setting.Loads state name source) → eager = some template) ∧
    (after.compiledForm? template.id).isSome = true
  | .error _ =>
    ((∀ template, ¬ setting.Current state name template) → eager = state.cache.get? name) ∧
    ((∀ source, ¬ setting.Loads state name source) → lazy = eager) ∧
    ∀ source, setting.Loads state name source →
      let issued := setting.issue state name source
      lazy = some issued.1 ∧ after.compiledForm? issued.1.id = none

/-- How an eager lookup ends, and a lazy one with a compilation after it. Either nests too deep if
the other does. Otherwise they come to the same result by the same calls, and leave the same forms and
the same entries of other names. -/
def Setting.Agree (setting : Setting) (name : String) (state : State)
    (eager lazy : Option (Except Error Template × State)) : Prop :=
  (eager = none ∧ lazy = none) ∨
  ∃ result after cache, eager = some (result, after) ∧ lazy = some (result, { after with cache }) ∧
    (∀ other, other ≠ name → cache.get? other = after.cache.get? other) ∧
    setting.Leaves name state after (after.cache.get? name) (cache.get? name) result

section Agreement

variable {setting : Setting} {calls : Calls} {name : String} {state : State} {template : Template}

theorem Setting.fetchCompiled_of_ok {middle : State}
    (given : setting.fetch calls name false state = some (.ok template, middle)) :
    setting.fetchCompiled calls name state =
      (setting.compileTemplate calls template middle).map fun outcome =>
        (outcome.1.map fun _ => template, outcome.2) := by
  refine (Run.bind_of_ok _ given).trans ?_
  refine (Run.bind_of_total (setting.compileTemplate calls template) (fun _ => return template)
    (fun _ final => (.ok template, final)) (fun _ _ => rfl) middle).trans ?_
  refine congrArg₂ Option.map (funext ?_) rfl
  rintro ⟨_ | _, _⟩ <;> rfl

theorem Setting.compiled_of_ok {after : State}
    (ended : setting.compileTemplate calls template state = some (.ok (), after)) :
    (after.compiledForm? template.id).isSome = true := by
  rw [Setting.compileTemplate_eq] at ended
  obtain ⟨⟨result, left⟩, found, same⟩ := Option.map_eq_some_iff.1 ended
  cases result with
  | error error => cases same
  | ok form =>
      cases same
      rw [Setting.kept_of_compiledForm found]
      rfl

/-- A current template is kept, so that both ways are one. -/
theorem Setting.fetchCompiled_of_current (current : setting.Current state name template) :
    setting.fetchCompiled calls name state = setting.fetch calls name true state := by
  have given : setting.fetch calls name false state =
      some (.ok template, state.log (setting.checks state template)) := by
    rw [Setting.fetch_of_kept _ _ current.1, if_pos current.2]
    rfl
  rw [Setting.fetchCompiled_of_ok given, Setting.fetch_of_kept _ _ current.1, if_pos current.2]
  refine congrArg₂ Option.map (funext ?_) rfl
  rintro ⟨_ | _, _⟩ <;> rfl

theorem Setting.fetch_of_loads {source : Source} (loads : setting.Loads state name source)
    (eager : Bool) :
    setting.fetch calls name eager state =
      let issued := setting.issue state name source
      (setting.ensure calls issued.1 eager issued.2).map fun outcome =>
        match outcome with
        | (.error error, final) => (.error error, final)
        | (.ok _, final) => (.ok issued.1, final.keep issued.1) := by
  rw [Setting.fetch_of_stale loads.1, Setting.load_eq, loads.2, State.log_log]
  rfl

/-- Before and after it is kept, the states of a template that was loaded differ in its entry alone. -/
theorem State.Numbered.beside (numbered : state.Numbered) (setting : Setting)
    (name : String) (source : Source) :
    let issued := setting.issue state name source
    issued.2.Beside ⟨state.cache.get? name, issued.1⟩ (issued.2.keep issued.1).cache where
  others := by
    intro other elsewhere
    exact (State.cache_keep _ _ other).trans (if_neg elsewhere)
  old := rfl
  new := (State.cache_keep _ _ name).trans (if_pos rfl)
  issued := Nat.lt_succ_self _
  apart := fun other template _ kept => Nat.ne_of_lt (numbered.cached other template kept)
  unknown := by
    apply Option.eq_none_iff_forall_ne_some.2
    intro form kept
    exact Nat.lt_irrefl _ (numbered.forms _ form kept)

/-- The lookups agree when they find a current template. -/
theorem Setting.agree_of_current (current : setting.Current state name template) :
    setting.Agree name state (setting.fetch calls name true state)
      (setting.fetchCompiled calls name state) := by
  rw [Setting.fetchCompiled_of_current current]
  cases ended : setting.fetch calls name true state with
  | none => exact Or.inl ⟨rfl, rfl⟩
  | some outcome =>
      obtain ⟨result, after⟩ := outcome
      refine Or.inr ⟨result, after, after.cache, rfl, rfl, fun _ _ => rfl, ?_⟩
      rw [Setting.fetch_of_kept _ _ current.1, if_pos current.2] at ended
      obtain ⟨⟨verdict, left⟩, compiled, same⟩ := Option.map_eq_some_iff.1 ended
      have unloaded : ∀ source, ¬ setting.Loads state name source :=
        fun source loads => loads.1 template current
      cases verdict with
      | error error =>
          cases same
          exact ⟨fun stale => absurd current (stale template), fun _ => rfl,
            fun source loads => absurd loads (unloaded source)⟩
      | ok _ =>
          cases same
          exact ⟨rfl, fun ⟨source, loads⟩ => absurd loads (unloaded source),
            Setting.compiled_of_ok compiled⟩

/-- They agree when the loaders fail. -/
theorem Setting.agree_of_failed {error : Error}
    (stale : ∀ template, ¬ setting.Current state name template)
    (failed : Loader.find setting.sources name setting.environment.loaders = .error error) :
    setting.Agree name state (setting.fetch calls name true state)
      (setting.fetchCompiled calls name state) := by
  have ended : ∀ eager, setting.fetch calls name eager state = some (.error error, _) :=
    Setting.fetch_of_failed stale failed calls
  refine Or.inr ⟨.error error, _, _, ended true, Run.bind_of_error _ (ended false),
    fun _ _ => rfl, fun _ => rfl, fun _ => rfl, ?_⟩
  intro source loads
  cases failed.symm.trans loads.2

/-- They agree when a source is loaded. The eager lookup compiles its template in a state that keeps
what was there before, and the lazy one in a state that keeps the template already. -/
theorem Setting.agree_of_loads {level : Nat} (numbered : state.Numbered)
    (loadsApart : setting.LoadsApart level name state) {source : Source}
    (loads : setting.Loads state name source) :
    setting.Agree name state (setting.fetch (setting.calls level) name true state)
      (setting.fetchCompiled (setting.calls level) name state) := by
  let issued := setting.issue state name source
  obtain ⟨apart, alsoApart⟩ := loadsApart source loads
  unfold Setting.CompilesApart at apart alsoApart
  rw [Setting.fetch_of_loads loads true,
    Setting.fetchCompiled_of_ok (Setting.fetch_of_loads loads false)]
  change setting.Agree name state
    ((setting.compileTemplate (setting.calls level) issued.1 issued.2).map _)
    ((setting.compileTemplate (setting.calls level) issued.1 (issued.2.keep issued.1)).map _)
  rw [apart, alsoApart]
  rcases setting.compileNew (numbered.beside setting name source) level with
    ⟨endless, alsoEndless⟩ |
    ⟨verdict, after, final, compiled, alsoCompiled, others, old, new, known⟩
  · rw [endless]
    exact Or.inl ⟨rfl, congrArg (Option.map _) alsoEndless⟩
  · rw [compiled]
    have given := congrArg (Option.map fun outcome : Except Error Unit × State =>
      (outcome.1.map fun _ => issued.1, outcome.2)) alsoCompiled
    cases verdict with
    | error error =>
        refine Or.inr ⟨.error error, after, final, rfl, given, others, fun _ => old, ?_, ?_⟩
        · exact fun nothing => absurd loads (nothing source)
        · intro other alsoLoads
          obtain rfl : other = source := Except.ok.inj (alsoLoads.2.symm.trans loads.2)
          exact ⟨new, Option.not_isSome_iff_eq_none.1 (ne_true_of_eq_false known)⟩
    | ok _ =>
        have entry : (after.keep issued.1).cache.get? name = some issued.1 :=
          (State.cache_keep after issued.1 name).trans (if_pos rfl)
        refine Or.inr ⟨.ok issued.1, after.keep issued.1, final, rfl, given, ?_,
          new.trans entry.symm, fun _ => entry, known⟩
        intro other elsewhere
        rw [others other elsewhere, State.cache_keep]
        exact (if_neg elsewhere).symm

end Agreement

/-- A lookup that compiles at once agrees with one that does not and a compilation after it,
provided that compiling what is loaded involves no request for its own name, does not have all templates
forgotten, and does not depend on whether there is one under the name. The one difference is that a
template which was loaded and fails to compile is kept by the second alone. -/
theorem lazy_agrees_with_eager (setting : Setting) (level : Nat) (name : String) {state : State}
    (numbered : state.Numbered) (loadsApart : setting.LoadsApart level name state) :
    setting.Agree name state (setting.fetch (setting.calls level) name true state)
      (setting.fetchCompiled (setting.calls level) name state) := by
  by_cases current : ∃ template, setting.Current state name template
  · obtain ⟨template, current⟩ := current
    exact Setting.agree_of_current current
  · have stale := not_exists.1 current
    cases found : Loader.find setting.sources name setting.environment.loaders with
    | error error => exact Setting.agree_of_failed stale found
    | ok source => exact Setting.agree_of_loads numbered loadsApart ⟨stale, found⟩

/-- The compiler that puts out the text, unless there is a template of the name already. -/
def Compiler.wary : Compiler :=
  ⟨fun name text => .look fun view =>
    if name ∈ view.templates then .done (.error (.new .compileError "there already"))
    else .build [(Module.rootName, .fresh (.code [.text text]))]⟩

/-- Not every compiler keeps to itself, even if it requests nothing. When it has all templates forgotten,
the page that was compiled at once is kept after that, and the one that was kept already is not. And when
it looks whether there is one already, it may compile the first and not the second. -/
theorem lookups_disagree :
    let loaders : List Loader := [.custom "all" fun _ => .ok (some (.ofText "text"))]
    let forgetful : Setting := ⟨⟨loaders, some .forgetful, ∅, .assumeFresh⟩, .empty⟩
    let wary : Setting := ⟨⟨loaders, some .wary, ∅, .assumeFresh⟩, .empty⟩
    let page : Template := ⟨0, "page", .ofText "text"⟩
    let calls : List Event := [.load 0 "page", .compile (some 0) "page" "text"]
    (∃ m after final,
      forgetful.fetch (forgetful.calls 1) "page" true .initial = some (.ok page, after) ∧
      forgetful.fetchCompiled (forgetful.calls 1) "page" .initial = some (.ok page, final) ∧
      after.events = calls ++ [.clear, .answer (some 0) (.ok m)] ∧ final.events = after.events ∧
      after.cache.get? "page" = some page ∧ final.cache.get? "page" = none) ∧
    ∃ error m mistake after final,
      wary.fetch (wary.calls 1) "page" true .initial = some (.ok page, after) ∧
      wary.fetchCompiled (wary.calls 1) "page" .initial = some (.error error, final) ∧
      after.events = calls ++ [.answer (some 0) (.ok m)] ∧
      final.events = calls ++ [.answer (some 0) (.error mistake)] :=
  ⟨⟨_, _, _, rfl, rfl, rfl, rfl, rfl, rfl⟩, _, _, _, _, _, rfl, rfl, rfl, rfl⟩

/-- The compiler that has `base` compiled for each other name, and finds fault with the text then. -/
def Compiler.finicky : Compiler :=
  ⟨fun name text =>
    if name = "base" then .build [(Module.rootName, .fresh (.code [.text text]))]
    else .fetch "base" true fun _ => .done (.error (.new .invalidOperation text))⟩

theorem Compiler.honest_finicky : Compiler.finicky.Honest := by
  intro name text
  change Recipe.Honest (if _ then _ else _) []
  split
  · apply Recipe.build_honest
    intro entry member
    rw [List.mem_singleton.1 member]
    trivial
  · intro result m impossible
    cases impossible

/-- A page that has become stale is loaded, and does not compile. Both lookups fail, and have `base`
compiled and kept on the way. Only the lazy one keeps the new page. -/
theorem lazy_agrees_with_eager_faulty :
    let loaders : List Loader := [.custom "all" fun _ => .ok (some (.ofText "text"))]
    let setting : Setting := ⟨⟨loaders, some .finicky, ∅, .assumeStale⟩, .empty⟩
    ∃ session, (Session.opened setting.environment setting.sources).live 0
        [.operate (.fetch "page" false)] = some session ∧
      ∃ error after cache,
        setting.fetch (setting.calls 2) "page" true session.engine.state =
          some (.error error, after) ∧
        setting.fetchCompiled (setting.calls 2) "page" session.engine.state =
          some (.error error, { after with cache }) ∧
        after.cache.get? "page" = some ⟨0, "page", .ofText "text"⟩ ∧
        cache.get? "page" = some ⟨1, "page", .ofText "text"⟩ ∧
        cache.get? "base" = after.cache.get? "base" := by
  intro loaders setting
  let page : Template := ⟨0, "page", .ofText "text"⟩
  let state : State := ⟨(∅ : Dict Template).insert "page" page, [], 1, 0, [.load 0 "page"]⟩
  let session : Session := ⟨⟨setting.environment, setting.sources, state⟩, [page]⟩
  have lived : (Session.opened setting.environment setting.sources).live 0
      [.operate (.fetch "page" false)] = some session := rfl
  have honest : setting.environment.Honest := by
    intro compiler same
    cases same
    exact Compiler.honest_finicky
  have allHonest : ∀ activity ∈ [Activity.operate (.fetch "page" false)], activity.Honest :=
    List.forall_mem_singleton.2 trivial
  have numbered : state.Numbered := Session.numbered honest allHonest lived
  have loads : setting.Loads state "page" (.ofText "text") := by
    refine ⟨?_, rfl⟩
    intro template current
    cases (show some page = some template from current.1)
    exact Bool.false_ne_true current.2
  have loadsApart : setting.LoadsApart 2 "page" state := by
    intro source alsoLoads
    cases loads.2.symm.trans alsoLoads.2
    let new : Template := ⟨1, "page", .ofText "text"⟩
    let base : Template := ⟨2, "base", .ofText "text"⟩
    let root : Procedure := ⟨0, .code [.text "text"]⟩
    let mistake : Error := .new .invalidOperation "text"
    let left (entry : Template) : State := {
      cache := .ofList [("page", entry), ("base", base)]
      compiled := [(2, ⟨root, ∅⟩)]
      templates := 3
      procedures := 1
      record := [.answer (some 1) (.error mistake),
        .answer (some 2) (.ok ⟨[(Module.rootName, root)]⟩), .compile (some 2) "base" "text",
        .load 0 "base", .request "base", .compile (some 1) "page" "text", .load 0 "page",
        .load 0 "page"] }
    let failed (entry : Template) : Option (Except Error Unit × State) :=
      some (.error (mistake.asCompileError.inTemplate "page"), left entry)
    let issued := setting.issue state "page" (.ofText "text")
    have first : setting.compileTemplate (setting.calls 2) new issued.2 = failed page := rfl
    have firstApart : setting.compileTemplate (setting.callsApart new 2) new issued.2 =
        failed page := rfl
    have last : setting.compileTemplate (setting.calls 2) new (issued.2.keep new) =
        failed new := rfl
    have lastApart : setting.compileTemplate (setting.callsApart new 2) new (issued.2.keep new) =
        failed new := rfl
    exact ⟨first.trans firstApart.symm, last.trans lastApart.symm⟩
  obtain ⟨error, after, ended⟩ : ∃ error after,
      setting.fetch (setting.calls 2) "page" true state = some (.error error, after) := ⟨_, _, rfl⟩
  refine ⟨session, lived, ?_⟩
  rcases lazy_agrees_with_eager setting 2 "page" numbered loadsApart with
    ⟨endless, -⟩ | ⟨result, left, cache, fetched, compiled, others, leaves⟩
  · cases endless.symm.trans ended
  · cases fetched.symm.trans ended
    obtain ⟨old, -, new⟩ := leaves
    exact ⟨error, after, cache, ended, compiled, old loads.1, (new _ loads).1,
      others "base" (by decide)⟩

end Stencil
