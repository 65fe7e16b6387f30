import Stencil.Proofs.Depth
import Stencil.Proofs.Effects
import Stencil.Proofs.Flattening

set_option autoImplicit false

namespace Stencil

/-- What lookups depend on that compile nothing is the same in both states: only the record and the
numbers of procedures may differ, and not in the number of checks. -/
def State.SameLookups (state other : State) : Prop :=
  (∃ procedures record, other = { state with procedures, record }) ∧ other.checked = state.checked

namespace State.SameLookups

variable {state middle other : State}

theorem trans (first : state.SameLookups middle) (second : middle.SameLookups other) :
    state.SameLookups other := by
  obtain ⟨⟨_, _, rfl⟩, checked⟩ := first
  obtain ⟨⟨procedures, record, rfl⟩, alsoChecked⟩ := second
  exact ⟨⟨procedures, record, rfl⟩, alsoChecked.trans checked⟩

/-- Procedures may be made. -/
theorem of_extends (grown : state.Extends other []) : state.SameLookups other := by
  obtain ⟨procedures, rfl⟩ := grown
  exact ⟨⟨procedures, _, rfl⟩, rfl⟩

/-- Anything may be recorded but a check. -/
theorem note (state : State) {event : Event} (elsewhere : event.isCheck = false) :
    state.SameLookups (state.note event) := by
  refine ⟨⟨state.procedures, _, rfl⟩, ?_⟩
  unfold State.checked State.note
  rw [List.countP_cons_of_neg (by rw [elsewhere]; exact Bool.false_ne_true)]

theorem log (same : state.SameLookups other) (made : List Event) :
    (state.log made).SameLookups (other.log made) := by
  obtain ⟨⟨procedures, record, rfl⟩, checked⟩ := same
  refine ⟨⟨procedures, _, rfl⟩, ?_⟩
  unfold State.checked State.log at *
  rw [List.countP_append, List.countP_append, checked]

theorem keep (same : state.SameLookups other) (name : String) (source : Source) :
    ((state.newTemplate name source).2.keep (state.newTemplate name source).1).SameLookups
      ((other.newTemplate name source).2.keep (other.newTemplate name source).1) := by
  obtain ⟨⟨procedures, record, rfl⟩, checked⟩ := same
  exact ⟨⟨procedures, record, rfl⟩, checked⟩

end State.SameLookups

section Lookups

variable {setting : Setting} {state other after : State} {result : Except Error Template}

theorem Setting.load_same (same : state.SameLookups other) {calls : Calls} {name : String}
    (loaded : setting.load calls name false state = some (result, after)) (further : Calls) :
    ∃ final, setting.load further name false other = some (result, final) ∧
      after.SameLookups final ∧ after.compiled = state.compiled := by
  rw [Setting.load_eq] at loaded ⊢
  have asked := same.log (setting.requests name)
  cases found : Loader.find setting.sources name setting.environment.loaders with
  | error error =>
      rw [found] at loaded
      cases loaded
      exact ⟨_, rfl, asked, rfl⟩
  | ok source =>
      rw [found] at loaded
      cases loaded
      have kept := asked.keep name source
      obtain ⟨⟨_, _, rfl⟩, _⟩ := same
      exact ⟨_, rfl, kept, rfl⟩

/-- In both states a lookup that compiles nothing does the same, and it leaves the forms alone. -/
theorem Setting.fetch_same (same : state.SameLookups other) {calls : Calls} {name : String}
    (fetched : setting.fetch calls name false state = some (result, after)) (further : Calls) :
    ∃ final, setting.fetch further name false other = some (result, final) ∧
      after.SameLookups final ∧ after.compiled = state.compiled := by
  have cache : other.cache = state.cache := by
    obtain ⟨⟨_, _, rfl⟩, _⟩ := same
    rfl
  cases kept : state.cache.get? name with
  | none =>
      rw [Setting.fetch_of_unknown kept] at fetched
      rw [Setting.fetch_of_unknown (cache ▸ kept)]
      exact Setting.load_same same fetched further
  | some template =>
      have fresh : setting.isFresh other template = setting.isFresh state template := by
        unfold Setting.isFresh
        rw [same.2]
      have checks : setting.checks other template = setting.checks state template := by
        unfold Setting.checks
        rw [same.2]
      have checked := same.log (setting.checks state template)
      rw [Setting.fetch_of_kept _ _ kept] at fetched
      rw [Setting.fetch_of_kept _ _ (cache ▸ kept), fresh, checks]
      split at fetched
      · rename_i current
        cases fetched
        rw [if_pos current]
        exact ⟨_, rfl, checked, rfl⟩
      · rename_i stale
        rw [if_neg stale]
        exact Setting.load_same checked fetched further

end Lookups

namespace Markup

/-- The documents of a text and of those that it extends, one after the other, as the environment
has them, one lookup after the other. The last one extends nothing. -/
inductive Lineage (setting : Setting) : State → String → List Document → Prop
  | last {state : State} {text : String} {doc : Document} (parsed : Document.parse text = .ok doc)
      (alone : extended text = []) : Lineage setting state text [doc]
  | child {state after : State} {text parent : String} {template : Template} {doc : Document}
      {docs : List Document} (parsed : Document.parse text = .ok doc)
      (child : (extended text).getLast? = some parent)
      (offered : setting.fetch (setting.calls 0) parent false state = some (.ok template, after))
      (rest : Lineage setting after template.source.text docs) :
      Lineage setting state text (doc :: docs)

theorem Lineage.sound {setting : Setting} {state : State} {text : String} {docs : List Document}
    (lineage : Lineage setting state text docs) : ∀ doc ∈ docs, doc.Sound := by
  induction lineage with
  | last parsed _ =>
      intro doc member
      rw [List.mem_singleton.1 member]
      exact Document.parse_sound parsed
  | child parsed _ _ _ ih =>
      intro doc member
      rcases List.mem_cons.1 member with rfl | later
      · exact Document.parse_sound parsed
      · exact ih doc later

/-- Compiling the first text of a chain yields the module of the chain. -/
theorem Lineage.compile {setting : Setting} {start : State} {text : String} {docs : List Document}
    (lineage : Lineage setting start text docs) {level : Nat} (enough : docs.length ≤ level)
    (name : String) {state : State} (same : start.SameLookups state) :
    ∃ m after, (setting.calls level).compile compiler name text state = some (.ok m, after) ∧
      Flattened docs m ∧ after.compiled = start.compiled := by
  induction lineage generalizing level name state with
  | @last start text doc parsed alone =>
      obtain ⟨lower, rfl⟩ : ∃ lower, level = lower + 1 := ⟨level - 1, by simp at enough; omega⟩
      have parent : doc.parent = none := by rw [Document.parse_parent parsed, alone]; rfl
      obtain ⟨made, middle, written, grown, first⟩ :=
        recipe_run setting (setting.calls lower) parsed state
      obtain ⟨root, after, interpreted, grownMore, finished⟩ :=
        finish_run_root setting (setting.calls lower) parent made middle
      refine ⟨_, after, first.trans finished, .root written interpreted, ?_⟩
      obtain ⟨⟨_, _, rfl⟩, -⟩ := same
      obtain ⟨_, rfl⟩ := grown.trans grownMore
      rfl
  | @child start next text parent template doc docs parsed child offered _ ih =>
      rw [List.length_cons] at enough
      obtain ⟨lower, rfl⟩ : ∃ lower, level = lower + 1 := ⟨level - 1, by omega⟩
      have extending : doc.parent = some parent := by rw [Document.parse_parent parsed, child]
      obtain ⟨made, middle, written, grown, first⟩ :=
        recipe_run setting (setting.calls lower) parsed state
      have requested : middle.SameLookups (middle.note (.request parent)) := .note middle rfl
      have reached := (same.trans (.of_extends grown)).trans requested
      obtain ⟨final, fetched, alsoSame, kept⟩ :=
        Setting.fetch_same reached offered (setting.calls lower)
      obtain ⟨m, after, answered, flattened, last⟩ :=
        ih (show docs.length ≤ lower by omega) parent alsoSame
      refine ⟨⟨made ++ m.exports⟩, after, first.trans ?_, .child written flattened,
        last.trans kept⟩
      rw [finish_run_child setting (setting.calls lower) extending made middle, fetched]
      simp only [answered]

theorem Lineage.compiledForm {setting : Setting} {template : Template} {state : State}
    {docs : List Document} (known : setting.environment.compiler = some compiler)
    (lineage : Lineage setting state template.source.text docs)
    (unknown : state.compiledForm? template.id = none) {level : Nat}
    (enough : docs.length ≤ level) :
    ∃ form after, setting.compiledForm (setting.calls level) template state =
        some (.ok form, after) ∧
      after.compiledForm? template.id = some form ∧ Flattens form docs := by
  have noted : state.SameLookups (state.note (.compile (some template.id) template.name
      template.source.text)) := .note state rfl
  obtain ⟨m, after, answered, flattened, same⟩ := lineage.compile enough template.name noted
  obtain ⟨form, sorted, flattens⟩ := flattened.compiled lineage.sound
  have answer : Compiled.ofAnswer (.ok m) = .ok form := sorted
  have still : after.compiledForm? template.id = none := by
    unfold State.compiledForm?
    rw [same]
    exact unknown
  refine ⟨form, after.settle template.id (.ok m), ?_, ?_, flattens⟩
  · rw [Setting.compiledForm_eq known unknown, answered, Option.map_some, answer, still]
    rfl
  · rw [State.compiledForm?_settle, still, Event.form?_answer, if_pos rfl, answer]
    rfl

end Markup

end Stencil
