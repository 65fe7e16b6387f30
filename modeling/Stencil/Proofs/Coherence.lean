import Stencil.Proofs.Forms
import Stencil.Proofs.Revisions

set_option autoImplicit false

namespace Stencil

/-- Every store holds revisions that it has given out, one for each addition at most. -/
def Sources.Counted (sources : Sources) (additions : Nat → Nat) : Prop :=
  ∀ id store, sources.stores[id]? = some store →
    store.Bounded ∧ store.revision.toNat ≤ additions id

/-- One of the listed stores is where the template comes from. -/
def Sources.Backs (sources : Sources) (listed : List Nat) (template : Template) : Prop :=
  ∃ id ∈ listed, ∃ store revision, sources.stores[id]? = some store ∧
    template.source.freshness = some (.revision id template.name revision) ∧
    store.Backs template.name template.source.text revision

theorem Sources.Counted.modify {sources : Sources} {additions more : Nat → Nat}
    (counted : sources.Counted additions) (id : Nat) (change : Store → Store)
    (grown : ∀ store, store.Bounded → store.revision.toNat ≤ additions id →
      (change store).Bounded ∧ (change store).revision.toNat ≤ more id)
    (others : ∀ other, id ≠ other → additions other ≤ more other) :
    (sources.modifyStore id change).Counted more := by
  intro other store found
  rw [Sources.getElem?_modifyStore] at found
  obtain ⟨old, known, rfl⟩ := Option.map_eq_some_iff.1 found
  obtain ⟨bounded, below⟩ := counted other old known
  by_cases same : id = other
  · subst same
    rw [if_pos rfl]
    exact grown old bounded below
  · rw [if_neg same]
    exact ⟨bounded, Nat.le_trans below (others other same)⟩

theorem Sources.Backs.modify {sources : Sources} {listed : List Nat} {template : Template}
    (backs : sources.Backs listed template) (id : Nat) (change : Store → Store)
    (kept : ∀ store revision, sources.stores[id]? = some store →
      store.Backs template.name template.source.text revision →
      (change store).Backs template.name template.source.text revision) :
    (sources.modifyStore id change).Backs listed template := by
  obtain ⟨place, member, store, revision, known, fresh, backs⟩ := backs
  refine ⟨place, member, if id = place then change store else store, revision, ?_, fresh, ?_⟩
  · rw [Sources.getElem?_modifyStore, known, Option.map_some]
  · by_cases same : id = place
    · subst same
      rw [if_pos rfl]
      exact kept store revision known backs
    · rw [if_neg same]
      exact backs

/-- A template that is current has a text that a listed store has for its name. -/
theorem Sources.Backs.hold {setting : Setting} {state : State} {listed : List Nat}
    {template : Template} (backs : setting.sources.Backs listed template)
    (fresh : setting.isFresh state template = true) :
    setting.sources.Hold listed template.name template.source.text := by
  obtain ⟨id, member, store, revision, known, tagged, backs⟩ := backs
  unfold Setting.isFresh at fresh
  rw [tagged] at fresh
  have current : store.isCurrent template.name revision = true := by
    obtain ⟨other, alsoKnown, current⟩ := (Option.any_eq_true _ _).1 fresh
    rw [known] at alsoKnown
    cases alsoKnown
    exact current
  refine ⟨id, member, store, known, ?_⟩
  rw [backs.current current, Option.map_some]

/-- The forms that are kept are right, and so are the templates. -/
structure State.Coherent (state : State) (sources : Sources) (listed : List Nat)
    (compiler : Compiler) (handles : List Template) : Prop where
  knows : state.KnowsForms compiler handles
  cached : ∀ name template, state.cache.get? name = some template →
    template ∈ handles ∧ template.name = name ∧ sources.Backs listed template

namespace State.Coherent

variable {state after : State} {sources : Sources} {listed : List Nat} {compiler : Compiler}
variable {handles : List Template}

theorem sameTemplates (coherent : state.Coherent sources listed compiler handles)
    (knows : after.KnowsForms compiler handles) (same : state.SameTemplates after) :
    after.Coherent sources listed compiler handles where
  knows := knows
  cached := by
    rw [same.cache]
    exact coherent.cached

theorem grow (coherent : state.Coherent sources listed compiler handles) {events : List Event}
    (grown : state.Extends after events) : after.Coherent sources listed compiler handles :=
  coherent.sameTemplates (coherent.knows.grow grown) grown.sameTemplates

theorem newTemplate (coherent : state.Coherent sources listed compiler handles) (name : String)
    (source : Source) :
    (state.newTemplate name source).2.Coherent sources listed compiler
      (handles ++ [(state.newTemplate name source).1]) where
  knows := coherent.knows.newTemplate name source
  cached := by
    intro other template kept
    obtain ⟨member, named, backed⟩ := coherent.cached other template kept
    exact ⟨List.mem_append_left _ member, named, backed⟩

theorem keep (coherent : state.Coherent sources listed compiler handles) {template : Template}
    (member : template ∈ handles) (backed : sources.Backs listed template) :
    (state.keep template).Coherent sources listed compiler handles where
  knows := ⟨coherent.knows.issued, coherent.knows.distinct, coherent.knows.emitted,
    coherent.knows.unissued⟩
  cached := by
    intro name other kept
    rw [State.cache_keep] at kept
    split at kept
    · rename_i same
      cases kept
      exact ⟨member, same.symm, backed⟩
    · exact coherent.cached name other kept

/-- It does no harm to be given a template twice. -/
theorem again (coherent : state.Coherent sources listed compiler handles) {template : Template}
    (member : template ∈ handles) :
    state.Coherent sources listed compiler (handles ++ [template]) where
  knows := by
    apply coherent.knows.subset
    intro other given
    rcases List.mem_append.1 given with old | new
    · exact old
    · rw [List.mem_singleton.1 new]
      exact member
  cached := by
    intro name other kept
    obtain ⟨member, named, backed⟩ := coherent.cached name other kept
    exact ⟨List.mem_append_left _ member, named, backed⟩

theorem forgetTemplates (coherent : state.Coherent sources listed compiler handles) :
    state.forgetTemplates.Coherent sources listed compiler handles where
  knows := ⟨coherent.knows.issued, coherent.knows.distinct, coherent.knows.emitted,
    coherent.knows.unissued⟩
  cached := by
    intro name template impossible
    cases impossible

/-- Templates stay backed when no store forgets which revisions it has given out. -/
theorem modifyStore (coherent : state.Coherent sources listed compiler handles) (id : Nat)
    (change : Store → Store)
    (kept : ∀ store name text revision, sources.stores[id]? = some store →
      store.Backs name text revision → (change store).Backs name text revision) :
    state.Coherent (sources.modifyStore id change) listed compiler handles where
  knows := coherent.knows
  cached := by
    intro name template found
    obtain ⟨member, named, backed⟩ := coherent.cached name template found
    exact ⟨member, named, backed.modify id change fun store => kept store _ _⟩

end State.Coherent

/-- What a lookup promises: a template under the name that was asked for, with a text that a listed
store has now, and in any case a coherent state. -/
def State.Serves (after : State) (sources : Sources) (listed : List Nat) (compiler : Compiler)
    (handles : List Template) (name : String) : Except Error Template → Prop
  | .ok template =>
    template.name = name ∧ sources.Hold listed name template.source.text ∧
      after.Coherent sources listed compiler (handles ++ [template])
  | .error _ => after.Coherent sources listed compiler handles

section Fetching

variable {compiler : Compiler} (function : compiler.IsFunction)
variable {setting : Setting} (known : setting.environment.compiler = some compiler)
variable {listed : List Nat} (loaders : setting.environment.loaders = listed.map .memory)
variable {level : Nat} {handles : List Template} {state after : State}

section

include function known

theorem Setting.compileTemplate_keeps {template : Template} {result : Except Error Unit}
    (knows : state.KnowsForms compiler handles) (member : template ∈ handles)
    (ended : setting.compileTemplate (setting.calls level) template state =
      some (result, after)) :
    after.KnowsForms compiler handles ∧ state.SameTemplates after := by
  rw [Setting.compileTemplate_eq] at ended
  obtain ⟨⟨form, between⟩, compiled, same⟩ := Option.map_eq_some_iff.1 ended
  cases same
  exact (Setting.compiledForm_emits function known knows member compiled).2

theorem Setting.ensure_keeps {template : Template} {eager : Bool} {result : Except Error Unit}
    (knows : state.KnowsForms compiler handles) (member : template ∈ handles)
    (ended : setting.ensure (setting.calls level) template eager state = some (result, after)) :
    after.KnowsForms compiler handles ∧ state.SameTemplates after := by
  cases eager with
  | false =>
      cases ended
      exact ⟨knows, rfl, rfl⟩
  | true => exact Setting.compileTemplate_keeps function known knows member ended

include loaders

theorem Setting.load_serves {name : String} {eager : Bool} {result : Except Error Template}
    {additions : Nat → Nat} (counted : setting.sources.Counted additions)
    (coherent : state.Coherent setting.sources listed compiler handles)
    (ended : setting.load (setting.calls level) name eager state = some (result, after)) :
    after.Serves setting.sources listed compiler handles name result := by
  rw [Setting.load_eq, loaders] at ended
  have asked := coherent.grow (state.extends_log (setting.requests name))
  rcases Loader.find_memory setting.sources name listed with
    ⟨id, member, store, text, revision, stored, entered, found⟩ | ⟨_, found⟩
  · rw [found] at ended
    obtain ⟨⟨reply, final⟩, ensured, same⟩ := Option.map_eq_some_iff.1 ended
    have issued := asked.newTemplate name ⟨text, none, some (.revision id name revision)⟩
    obtain ⟨knows, unchanged⟩ :=
      Setting.ensure_keeps function known issued.knows (List.mem_concat_self) ensured
    cases reply with
    | error error =>
        cases same
        -- The new template was given to nobody, so the templates are those from before.
        exact ⟨knows.subset (List.subset_append_left _ _), by rw [unchanged.cache]; exact asked.cached⟩
    | ok _ =>
        cases same
        refine ⟨rfl, ⟨id, member, store, stored, ?_⟩, ?_⟩
        · rw [entered, Option.map_some]
          rfl
        · apply (issued.sameTemplates knows unchanged).keep List.mem_concat_self
          exact ⟨id, member, store, revision, stored, rfl, (counted id store stored).1.backs entered⟩
  · rw [found] at ended
    cases ended
    exact asked

/-- The invariant of lookups. -/
theorem Setting.fetch_serves {name : String} {eager : Bool} {result : Except Error Template}
    {additions : Nat → Nat} (counted : setting.sources.Counted additions)
    (coherent : state.Coherent setting.sources listed compiler handles)
    (ended : setting.fetch (setting.calls level) name eager state = some (result, after)) :
    after.Serves setting.sources listed compiler handles name result := by
  cases kept : state.cache.get? name with
  | none =>
      rw [Setting.fetch_of_unknown kept] at ended
      exact Setting.load_serves function known loaders counted coherent ended
  | some template =>
      rw [Setting.fetch_of_kept _ _ kept] at ended
      have stillCoherent := coherent.grow (state.extends_log (setting.checks state template))
      obtain ⟨member, named, backed⟩ := coherent.cached name template kept
      by_cases fresh : setting.isFresh state template = true
      · rw [if_pos fresh] at ended
        obtain ⟨⟨reply, final⟩, ensured, same⟩ := Option.map_eq_some_iff.1 ended
        obtain ⟨knows, unchanged⟩ :=
          Setting.ensure_keeps function known stillCoherent.knows member ensured
        have last := stillCoherent.sameTemplates knows unchanged
        cases reply with
        | error error =>
            cases same
            exact last
        | ok _ =>
            cases same
            have held := backed.hold fresh
            rw [named] at held
            exact ⟨named, held, last.again member⟩
      · rw [if_neg fresh] at ended
        exact Setting.load_serves function known loaders counted stillCoherent ended

end

include loaders

theorem Setting.load_lazy (calls : Calls) (name : String) (state : State) :
    ∃ result after, setting.load calls name false state = some (result, after) ∧
      ((∃ template, result = .ok template) ∨
        (∀ text, ¬ setting.sources.Hold listed name text) ∧
          result = .error (.templateNotFound name)) := by
  have loaded := setting.load_eq calls name false state
  rw [loaders] at loaded
  rcases Loader.find_memory setting.sources name listed with
    ⟨_, _, _, _, _, _, _, found⟩ | ⟨missing, found⟩
  · rw [found] at loaded
    exact ⟨_, _, loaded, Or.inl ⟨_, rfl⟩⟩
  · rw [found] at loaded
    exact ⟨_, _, loaded, Or.inr ⟨missing, rfl⟩⟩

/-- A lookup that compiles nothing always ends, and fails only when no listed store has the name. -/
theorem Setting.fetch_lazy (calls : Calls) (name : String) (state : State) :
    ∃ result after, setting.fetch calls name false state = some (result, after) ∧
      ((∃ template, result = .ok template) ∨
        (∀ text, ¬ setting.sources.Hold listed name text) ∧
          result = .error (.templateNotFound name)) := by
  cases kept : state.cache.get? name with
  | none =>
      rw [Setting.fetch_of_unknown kept]
      exact Setting.load_lazy loaders calls name state
  | some template =>
      rw [Setting.fetch_of_kept _ _ kept]
      by_cases fresh : setting.isFresh state template = true
      · rw [if_pos fresh]
        exact ⟨_, _, rfl, Or.inl ⟨template, rfl⟩⟩
      · rw [if_neg fresh]
        exact Setting.load_lazy loaders calls name _

end Fetching

end Stencil
