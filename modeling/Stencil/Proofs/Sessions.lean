import Stencil.Proofs.Coherence
import Stencil.Engine.Basic

set_option autoImplicit false

namespace Stencil

/-- What a user does. Stores have numbers, and templates go by their place among those that the
user was given. -/
inductive Operation where
  | add (store : Nat) (name text : String)
  | remove (store : Nat) (name : String)
  | fetch (name : String) (eager : Bool)
  | ofText (name text : String)
  | compile (handle : Nat)
  | render (handle : Nat) (data : Data)
  | clearTemplates
  | addFilter (name : String) (filter : Filter)
  | removeFilter (name : String)
  | setPolicy (policy : Policy)

/-- Whether a template is added to the store of the number. -/
def Operation.addsTo (store : Nat) : Operation → Bool
  | .add id _ _ => id == store
  | _ => false

/-- An engine and the templates that the user was given, the latest last. -/
structure Session where
  engine : Engine
  handles : List Template

namespace Session

/-- A session with new stores, the listed ones of which are loaded from. -/
def start (stores : Nat) (listed : List Nat) (compiler : Compiler) (filters : Filters)
    (policy : Policy) : Session :=
  let engine := Engine.new ⟨[], some compiler, filters, policy⟩ ⟨List.replicate stores .new, .empty, ∅⟩
  ⟨engine.setLoaders (listed.map .memory), []⟩

/-- Does something with a template that the user was given, if it was. -/
def use {α : Type} (session : Session) (handle : Nat)
    (work : Engine → Template → Option (Except Error α × Engine)) : Option Session :=
  match session.handles[handle]? with
  | none => some session
  | some template => (work session.engine template).map fun outcome =>
    { session with engine := outcome.2 }

/-- What an operation makes of a session, unless calls nest deeper than `limit`. -/
def step (limit : Nat) (session : Session) : Operation → Option Session
  | .add store name text =>
    some { session with engine :=
      session.engine.changeSources (·.modifyStore store (·.add name text)) }
  | .remove store name =>
    some { session with engine :=
      session.engine.changeSources (·.modifyStore store (·.remove name)) }
  | .fetch name eager =>
    (session.engine.fetch limit name eager).map fun outcome =>
      ⟨outcome.2, session.handles ++ outcome.1.toOption.toList⟩
  | .ofText name text =>
    let issued := session.engine.ofText name text
    some ⟨issued.2, session.handles ++ [issued.1]⟩
  | .compile handle => session.use handle fun engine template => engine.compile limit template
  | .render handle data =>
    session.use handle fun engine template => engine.render limit template data
  | .clearTemplates => some { session with engine := session.engine.clearTemplates }
  | .addFilter name filter =>
    some { session with engine := session.engine.addFilter name filter }
  | .removeFilter name => some { session with engine := session.engine.removeFilter name }
  | .setPolicy policy => some { session with engine := session.engine.setPolicy policy }

def run (limit : Nat) (session : Session) (operations : List Operation) : Option Session :=
  operations.foldlM (step limit) session

/-- The invariant of sessions, where `additions` counts what was added to each store. -/
structure Coherent (session : Session) (listed : List Nat) (compiler : Compiler)
    (additions : Nat → Nat) : Prop where
  loaders : session.engine.environment.loaders = listed.map .memory
  known : session.engine.environment.compiler = some compiler
  counted : session.engine.sources.Counted additions
  state : session.engine.state.Coherent session.engine.sources listed compiler session.handles

end Session

theorem Engine.environment_setLoaders (engine : Engine) (loaders : List Loader) :
    (engine.setLoaders loaders).environment = { engine.environment with loaders := loaders } := by
  have folded : ∀ start : Engine, (loaders.foldl Engine.addLoader start).environment =
      { start.environment with loaders := start.environment.loaders ++ loaders } := by
    induction loaders with
    | nil =>
        intro start
        rw [List.append_nil]
        rfl
    | cons loader rest ih =>
        intro start
        rw [List.foldl_cons, ih]
        simp only [Engine.addLoader, List.append_assoc, List.singleton_append]
  exact folded engine.clearLoaders

theorem Engine.state_setLoaders (engine : Engine) (loaders : List Loader) :
    (engine.setLoaders loaders).state = engine.state := by
  have folded : ∀ start : Engine, (loaders.foldl Engine.addLoader start).state = start.state := by
    induction loaders with
    | nil => exact fun _ => rfl
    | cons loader rest ih => exact fun start => ih (start.addLoader loader)
  exact folded engine.clearLoaders

theorem Sources.Counted.hold {sources : Sources} {additions : Nat → Nat}
    (counted : sources.Counted additions) (loader : Loader) :
    (loader.hold sources).Counted additions := by
  cases loader with
  | memory id =>
      apply counted.modify id Store.hold
      · intro store bounded below
        unfold Store.hold
        split <;> exact ⟨bounded, below⟩
      · exact fun _ _ => Nat.le_refl _
  | directories | custom => exact counted

theorem Engine.counted_addLoaders (loaders : List Loader) {engine : Engine}
    {additions : Nat → Nat} (counted : engine.sources.Counted additions) :
    (loaders.foldl Engine.addLoader engine).sources.Counted additions := by
  induction loaders generalizing engine with
  | nil => exact counted
  | cons loader rest ih => exact ih (counted.hold loader)

theorem Session.coherent_start (stores : Nat) (listed : List Nat) (compiler : Compiler)
    (filters : Filters) (policy : Policy) :
    (start stores listed compiler filters policy).Coherent listed compiler fun _ => 0 where
  loaders := by
    unfold start
    rw [Engine.environment_setLoaders]
  known := by
    unfold start
    rw [Engine.environment_setLoaders]
    rfl
  counted := by
    apply Engine.counted_addLoaders
    intro id store found
    obtain rfl := List.eq_of_mem_replicate (List.mem_of_getElem? found)
    exact ⟨Store.bounded_new, Nat.le_refl 0⟩
  state := by
    unfold start
    rw [Engine.state_setLoaders]
    refine ⟨⟨?_, ?_, ?_, fun _ _ => rfl⟩, ?_⟩
    · exact fun _ impossible => absurd impossible List.not_mem_nil
    · exact fun _ impossible => absurd impossible List.not_mem_nil
    · exact fun _ impossible => absurd impossible List.not_mem_nil
    · intro _ _ impossible
      cases impossible

/-- How many templates were added to a store once an operation is done. -/
def Operation.count (operation : Operation) (additions : Nat → Nat) (store : Nat) : Nat :=
  additions store + if operation.addsTo store then 1 else 0

theorem Operation.le_count (operation : Operation) (additions : Nat → Nat) (store : Nat) :
    additions store ≤ operation.count additions store := Nat.le_add_right _ _

theorem Engine.perform_eq {α : Type} {engine final : Engine} {limit : Nat}
    {work : Setting → Calls → Run α} {result : Except Error α}
    (ended : engine.perform limit work = some (result, final)) :
    work engine.setting (engine.setting.calls limit) engine.state = some (result, final.state) ∧
      final = { engine with state := final.state } := by
  obtain ⟨⟨result, after⟩, worked, same⟩ := Option.map_eq_some_iff.1 ended
  cases same
  exact ⟨worked, rfl⟩

theorem Engine.perform_of {α : Type} {engine : Engine} {limit : Nat}
    {work : Setting → Calls → Run α} {result : Except Error α} {after : State}
    (ended : work engine.setting (engine.setting.calls limit) engine.state =
      some (result, after)) :
    engine.perform limit work = some (result, { engine with state := after }) := by
  unfold Engine.perform
  rw [ended, Option.map_some]

namespace Session.Coherent

variable {session after : Session} {listed : List Nat} {compiler : Compiler}
variable {additions : Nat → Nat}

/-- Operations that change nothing but what compilations and lookups do not depend on. -/
theorem setUp (coherent : session.Coherent listed compiler additions) (filters : Filters)
    (policy : Policy) :
    Coherent { session with engine := { session.engine with
      environment := { session.engine.environment with filters, policy } } } listed compiler
      additions :=
  ⟨coherent.loaders, coherent.known, coherent.counted, coherent.state⟩

theorem more (coherent : session.Coherent listed compiler additions) (operation : Operation) :
    session.Coherent listed compiler (operation.count additions) where
  loaders := coherent.loaders
  known := coherent.known
  counted := by
    intro id store found
    obtain ⟨bounded, below⟩ := coherent.counted id store found
    exact ⟨bounded, Nat.le_trans below (operation.le_count additions id)⟩
  state := coherent.state

theorem add (coherent : session.Coherent listed compiler additions) {store : Nat}
    {name text : String} (room : (Operation.add store name text).count additions store < 2 ^ 64) :
    Coherent { session with engine :=
      session.engine.changeSources (·.modifyStore store (·.add name text)) } listed compiler
      ((Operation.add store name text).count additions) := by
  have grown : (Operation.add store name text).count additions store = additions store + 1 := by
    simp only [Operation.count, Operation.addsTo, beq_self_eq_true, ↓reduceIte]
  rw [grown] at room
  refine ⟨coherent.loaders, coherent.known, ?_, ?_⟩
  · apply coherent.counted.modify store
    · intro before bounded below
      refine ⟨bounded.add name text (by omega), ?_⟩
      rw [before.revision_add name text (by omega), grown]
      omega
    · exact fun other _ => Operation.le_count _ additions other
  · apply coherent.state.modifyStore store
    intro before other content revision found backs
    have below := (coherent.counted store before found).2
    exact backs.add name text (by omega)

theorem remove (coherent : session.Coherent listed compiler additions) (store : Nat)
    (name : String) :
    Coherent { session with engine :=
      session.engine.changeSources (·.modifyStore store (·.remove name)) } listed compiler
      additions := by
  refine ⟨coherent.loaders, coherent.known, ?_, ?_⟩
  · apply coherent.counted.modify store
    · exact fun before bounded below => ⟨bounded.remove name, below⟩
    · exact fun _ _ => Nat.le_refl _
  · apply coherent.state.modifyStore store
    exact fun before _ _ _ _ backs => backs.remove name

theorem use {α : Type} {handle limit : Nat} {work : Template → Setting → Calls → Run α}
    (coherent : session.Coherent listed compiler additions)
    (used : session.use handle (fun engine template => engine.perform limit (work template)) =
      some after)
    (keeps : ∀ template ∈ session.handles, ∀ result final,
      work template session.engine.setting (session.engine.setting.calls limit)
        session.engine.state = some (result, final) →
      final.KnowsForms compiler session.handles ∧ session.engine.state.SameTemplates final) :
    after.Coherent listed compiler additions := by
  unfold Session.use at used
  cases given : session.handles[handle]? with
  | none =>
      rw [given] at used
      cases used
      exact coherent
  | some template =>
      rw [given] at used
      obtain ⟨⟨result, engine⟩, worked, same⟩ := Option.map_eq_some_iff.1 used
      cases same
      obtain ⟨ended, only⟩ := Engine.perform_eq worked
      obtain ⟨knows, unchanged⟩ := keeps template (List.mem_of_getElem? given) _ _ ended
      rw [only]
      exact ⟨coherent.loaders, coherent.known, coherent.counted,
        coherent.state.sameTemplates knows unchanged⟩

variable (function : compiler.IsFunction)
include function

theorem fetch (coherent : session.Coherent listed compiler additions) {limit : Nat} {name : String}
    {eager : Bool} {result : Except Error Template} {engine : Engine}
    (fetched : session.engine.fetch limit name eager = some (result, engine)) :
    engine = { session.engine with state := engine.state } ∧
      engine.state.Serves session.engine.sources listed compiler session.handles name result := by
  obtain ⟨ended, only⟩ := Engine.perform_eq fetched
  have sources : session.engine.setting.sources = session.engine.sources := rfl
  exact ⟨only, Setting.fetch_serves function coherent.known coherent.loaders coherent.counted
    coherent.state ended⟩

/-- Every operation keeps the invariant. -/
theorem step {limit : Nat} {operation : Operation}
    (coherent : session.Coherent listed compiler additions)
    (room : ∀ store, operation.count additions store < 2 ^ 64)
    (stepped : session.step limit operation = some after) :
    after.Coherent listed compiler (operation.count additions) := by
  cases operation with
  | add store name text =>
      cases stepped
      exact coherent.add (room store)
  | remove store name =>
      cases stepped
      exact (coherent.remove store name).more _
  | fetch name eager =>
      obtain ⟨⟨result, engine⟩, fetched, same⟩ := Option.map_eq_some_iff.1 stepped
      cases same
      obtain ⟨only, serves⟩ := coherent.fetch function fetched
      apply Coherent.more
      rw [only]
      refine ⟨coherent.loaders, coherent.known, coherent.counted, ?_⟩
      cases result with
      | ok template => exact serves.2.2
      | error error =>
          rw [Except.toOption, Option.toList_none, List.append_nil]
          exact serves
  | ofText name text =>
      cases stepped
      apply Coherent.more
      exact ⟨coherent.loaders, coherent.known, coherent.counted, coherent.state.newTemplate name _⟩
  | compile handle =>
      apply Coherent.more
      apply coherent.use stepped
      intro template member result final ended
      exact Setting.compileTemplate_keeps function coherent.known coherent.state.knows member ended
  | render handle data =>
      apply Coherent.more
      apply coherent.use stepped
      intro template member result final ended
      exact Setting.render_keeps function coherent.known coherent.state.knows member ended
  | clearTemplates =>
      cases stepped
      apply Coherent.more
      exact ⟨coherent.loaders, coherent.known, coherent.counted, coherent.state.forgetTemplates⟩
  | addFilter name filter =>
      cases stepped
      exact (coherent.setUp _ _).more _
  | removeFilter name =>
      cases stepped
      exact (coherent.setUp _ _).more _
  | setPolicy policy =>
      cases stepped
      exact (coherent.setUp _ _).more _

theorem run {limit : Nat} {operations : List Operation}
    (coherent : session.Coherent listed compiler additions)
    (room : ∀ store, additions store + operations.countP (·.addsTo store) < 2 ^ 64)
    (ran : session.run limit operations = some after) :
    ∃ all, after.Coherent listed compiler all := by
  induction operations generalizing session additions with
  | nil =>
      cases ran
      exact ⟨additions, coherent⟩
  | cons operation rest ih =>
      obtain ⟨middle, stepped, ran⟩ := Option.bind_eq_some_iff.1 ran
      have counted : ∀ store, operation.count additions store +
          rest.countP (·.addsTo store) < 2 ^ 64 := by
        intro store
        have total := room store
        rw [List.countP_cons] at total
        unfold Operation.count
        omega
      have enough : ∀ store, operation.count additions store < 2 ^ 64 := by
        intro store
        exact Nat.lt_of_le_of_lt (Nat.le_add_right _ _) (counted store)
      exact ih (coherent.step function enough stepped) counted ran

end Session.Coherent

end Stencil
