import Mathlib.Data.List.Pairwise
import Stencil.Proofs.Lookup

set_option autoImplicit false

namespace Stencil

/-- The template is kept under the name, and is current. -/
def Setting.Current (setting : Setting) (state : State) (name : String) (template : Template) :
    Prop :=
  state.cache.get? name = some template ∧ setting.isFresh state template = true

/-- The form in an answer of the compiler for the template of a number, if it is a valid one. -/
def Event.form? (id : Nat) : Event → Option Compiled
  | .answer (some template) result =>
    if template = id then (Compiled.ofAnswer result).toOption else none
  | _ => none

/-- The later of two events is no call for a template that the compiler has given a valid answer for
in the earlier. -/
def Event.Precedes (event later : Event) : Prop :=
  ∀ id form name text, event.form? id = some form → later ≠ .compile (some id) name text

/-- The compiler was called for the template of the number. -/
def Event.calls (id : Nat) : Event → Bool
  | .compile template _ _ => template == some id
  | _ => false

/-- The compiler has answered a call for the template of the number. -/
def Event.answers (id : Nat) : Event → Bool
  | .answer template _ => template == some id
  | _ => false

/-- What may become of the record and of the forms while calls are made. -/
structure State.Grows (before after : State) (made : List Event) : Prop where
  /-- The calls are on record, in order, behind those from before. -/
  events : after.events = before.events ++ made
  templates : before.templates ≤ after.templates
  /-- A form stays. If there is none, then the first valid answer for the template brings it. -/
  forms : ∀ id, after.compiledForm? id =
    (before.compiledForm? id).or (made.findSome? (Event.form? id))
  /-- For a template with a form the compiler is not called. -/
  kept : ∀ id form, before.compiledForm? id = some form →
    ∀ name text, .compile (some id) name text ∉ made
  /-- Nor is it called again for a template that it has given a valid answer for. -/
  ordered : made.Pairwise Event.Precedes
  /-- Each call for a template is answered. -/
  balanced : ∀ id, made.countP (Event.calls id) = made.countP (Event.answers id)

/-- What may become of a state while calls are made in a setting. -/
structure Setting.Follows (setting : Setting) (before after : State) (made : List Event) : Prop
    extends before.Grows after made where
  /-- Every entry is as it was, or is a new template that the loaders, once asked, have found, or was
  forgotten. -/
  entries : ∀ name, after.cache.get? name = before.cache.get? name ∨
    (∃ template place, after.cache.get? name = some template ∧ template.name = name ∧
      before.templates ≤ template.id ∧ .load place name ∈ made ∧
      Loader.find setting.sources name setting.environment.loaders = .ok template.source) ∨
    after.cache.get? name = none ∧ .clear ∈ made

/-- Loaders were asked for names of one's own, and otherwise for those that were requested. -/
def Event.Attributed (own : String → Prop) (made : List Event) : Prop :=
  ∀ place name, .load place name ∈ made → own name ∨ .request name ∈ made

namespace State.Grows

variable {before middle after : State} {made more : List Event}

theorem refl (state : State) : state.Grows state [] where
  events := (List.append_nil _).symm
  templates := Nat.le_refl _
  forms := fun _ => Option.or_none.symm
  kept := fun _ _ _ _ _ => List.not_mem_nil
  ordered := .nil
  balanced := fun _ => rfl

/-- A form that is there stays. -/
theorem still (grows : before.Grows after made) {id : Nat} {form : Compiled}
    (known : before.compiledForm? id = some form) : after.compiledForm? id = some form := by
  rw [grows.forms, known, Option.some_or]

/-- A valid answer leaves its template compiled. -/
theorem compiled_of_mem (grows : before.Grows after made) {event : Event} (member : event ∈ made)
    {id : Nat} {form : Compiled} (valid : event.form? id = some form) :
    ∃ first, after.compiledForm? id = some first := by
  have answered : (made.findSome? (Event.form? id)).isSome := by
    rw [List.findSome?_isSome_iff]
    exact ⟨event, member, by rw [valid]; rfl⟩
  obtain ⟨first, found⟩ := Option.isSome_iff_exists.1 answered
  rw [grows.forms, found]
  cases before.compiledForm? id with
  | none => exact ⟨first, rfl⟩
  | some form => exact ⟨form, rfl⟩

/-- Without a call for a template there is no valid answer. -/
theorem no_form (grows : before.Grows after made) {id : Nat}
    (uncalled : ∀ name text, .compile (some id) name text ∉ made) :
    made.findSome? (Event.form? id) = none := by
  have none : made.countP (Event.calls id) = 0 := by
    rw [List.countP_eq_zero]
    rintro (_ | _ | ⟨template, name, text⟩ | _ | _ | _ | _) member called
    case compile =>
      obtain rfl : template = some id := beq_iff_eq.1 called
      exact uncalled name text member
    all_goals cases called
  rw [grows.balanced, List.countP_eq_zero] at none
  rw [List.findSome?_eq_none_iff]
  intro event member
  have unanswered := none event member
  cases event with
  | answer template result =>
      cases template with
      | none => rfl
      | some other =>
          rw [Event.form?, if_neg fun same => unanswered (by rw [same]; exact beq_self_eq_true _)]
  | _ => rfl

theorem trans (early : before.Grows middle made) (late : middle.Grows after more) :
    before.Grows after (made ++ more) where
  events := by rw [late.events, early.events, List.append_assoc]
  templates := Nat.le_trans early.templates late.templates
  forms := by
    intro id
    rw [late.forms, early.forms, List.findSome?_append, Option.or_assoc]
  kept := by
    intro id form known name text called
    rcases List.mem_append.1 called with called | called
    · exact early.kept id form known name text called
    · exact late.kept id form (early.still known) name text called
  ordered := by
    refine List.pairwise_append.2 ⟨early.ordered, late.ordered, ?_⟩
    rintro event member _ called id form name text valid rfl
    obtain ⟨first, known⟩ := early.compiled_of_mem member valid
    exact late.kept id first known name text called
  balanced := by
    intro id
    rw [List.countP_append, List.countP_append, early.balanced, late.balanced]

/-- Whatever happens to the templates that are kept does not matter. -/
theorem of_same (grows : before.Grows middle made) (record : after.record = middle.record)
    (compiled : after.compiled = middle.compiled) (templates : middle.templates ≤ after.templates) :
    before.Grows after made where
  events := by
    rw [← grows.events]
    unfold State.events
    rw [record]
  templates := Nat.le_trans grows.templates templates
  forms := by
    intro id
    rw [← grows.forms]
    unfold State.compiledForm?
    rw [compiled]
  kept := grows.kept
  ordered := grows.ordered
  balanced := grows.balanced

end State.Grows

/-- Anything may be recorded that is neither a call of the compiler nor an answer. -/
theorem State.grows_log {state : State} {made : List Event}
    (elsewhere : ∀ event ∈ made, (∀ id name text, event ≠ .compile id name text) ∧
      ∀ id answer, event ≠ .answer id answer) : state.Grows (state.log made) made := by
  have unanswered : ∀ id, ∀ event ∈ made, event.form? id = none ∧ event.answers id = false := by
    intro id event member
    cases event with
    | answer template result => exact absurd rfl ((elsewhere _ member).2 _ _)
    | _ => exact ⟨rfl, rfl⟩
  have uncalled : ∀ id, ∀ event ∈ made, event.calls id = false := by
    intro id event member
    cases event with
    | compile template name text => exact absurd rfl ((elsewhere _ member).1 _ _ _)
    | _ => rfl
  constructor
  · exact state.events_log made
  · exact Nat.le_refl _
  · intro id
    rw [List.findSome?_eq_none_iff.2 fun event member => (unanswered id event member).1,
      Option.or_none]
    rfl
  · intro id form known name text called
    exact (elsewhere _ called).1 _ _ _ rfl
  · apply List.pairwise_of_forall_mem_list
    intro event member later _ id form name text valid
    rw [(unanswered id event member).1] at valid
    cases valid
  · intro id
    rw [List.countP_eq_zero.2 fun event member => by simp [uncalled id event member],
      List.countP_eq_zero.2 fun event member => by simp [unanswered id event member]]

theorem Event.form?_answer (id template : Nat) (answer : Except Error Module) :
    Event.form? id (.answer (some template) answer) =
      if template = id then (Compiled.ofAnswer answer).toOption else none := rfl

theorem State.compiledForm?_settle (state : State) (id other : Nat) (answer : Except Error Module) :
    (state.settle id answer).compiledForm? other =
      (state.compiledForm? other).or (Event.form? other (.answer (some id) answer)) := by
  unfold State.settle
  rw [Event.form?_answer]
  cases Compiled.ofAnswer answer with
  | error error =>
      simp only [Except.toOption, ite_self, Option.or_none]
      rfl
  | ok form =>
      simp only [State.compiledForm?_keepCompiled]
      by_cases same : other = id
      · subst same
        rw [if_pos rfl, if_pos rfl]
        change some ((state.compiledForm? other).getD form) = _
        cases state.compiledForm? other <;> rfl
      · rw [if_neg same, if_neg (Ne.symm same), Option.or_none]
        rfl

/-- What a compilation makes of a state lies between the call of the compiler and its answer. -/
theorem State.Grows.settle {before between : State} {made : List Event} {id : Nat}
    {name text : String} (unknown : before.compiledForm? id = none)
    (grows : (before.note (.compile (some id) name text)).Grows between made)
    (answer : Except Error Module) :
    before.Grows (between.settle id answer)
      (.compile (some id) name text :: made ++ [.answer (some id) answer]) := by
  obtain ⟨compiled, only⟩ := between.settle_only id answer
  have start : ∀ other, State.compiledForm? (before.note (.compile (some id) name text)) other =
      before.compiledForm? other := fun _ => rfl
  constructor
  · have events : (between.settle id answer).events =
        between.events ++ [.answer (some id) answer] := by
      rw [only]
      exact between.events_log [.answer (some id) answer]
    have called : (before.note (.compile (some id) name text)).events =
        before.events ++ [.compile (some id) name text] :=
      before.events_log [.compile (some id) name text]
    rw [events, grows.events, called]
    simp
  · rw [only]
    exact grows.templates
  · intro other
    rw [State.compiledForm?_settle, grows.forms, start, List.cons_append, List.findSome?_cons,
      List.findSome?_append, List.findSome?_singleton, Option.or_assoc]
    rfl
  · intro other form known othersName content called
    rcases List.mem_append.1 called with called | impossible
    · rcases List.mem_cons.1 called with same | called
      · cases same
        rw [unknown] at known
        cases known
      · exact grows.kept other form known othersName content called
    · cases List.mem_singleton.1 impossible
  · refine List.pairwise_append.2 ⟨List.pairwise_cons.2 ⟨nofun, grows.ordered⟩,
      List.pairwise_singleton _ _, ?_⟩
    rintro event - later last other form othersName content -
    rw [List.mem_singleton.1 last]
    nofun
  · intro other
    simp only [List.cons_append, List.countP_cons, List.countP_append, List.countP_nil,
      grows.balanced other, Event.calls, Event.answers, Bool.false_eq_true, ↓reduceIte,
      Nat.zero_add, Nat.add_zero]
    rfl

namespace Setting.Follows

variable {setting : Setting} {before middle after : State} {made more : List Event}

theorem of_grows (grows : before.Grows after made) (cache : after.cache = before.cache) :
    setting.Follows before after made where
  toGrows := grows
  entries := by
    intro name
    rw [cache]
    exact Or.inl rfl

theorem refl (setting : Setting) (state : State) : setting.Follows state state [] :=
  of_grows (.refl state) rfl

theorem trans (early : setting.Follows before middle made)
    (late : setting.Follows middle after more) : setting.Follows before after (made ++ more) where
  toGrows := early.toGrows.trans late.toGrows
  entries := by
    intro name
    rcases late.entries name with
      unchanged | ⟨template, place, entry, named, new, asked, source⟩ | ⟨forgotten, cleared⟩
    · rw [unchanged]
      rcases early.entries name with
        same | ⟨template, place, entry, named, new, asked, source⟩ | ⟨forgotten, cleared⟩
      · exact Or.inl same
      · exact Or.inr (Or.inl ⟨template, place, entry, named, new, List.mem_append_left _ asked,
          source⟩)
      · exact Or.inr (Or.inr ⟨forgotten, List.mem_append_left _ cleared⟩)
    · exact Or.inr (Or.inl ⟨template, place, entry, named, Nat.le_trans early.templates new,
        List.mem_append_right _ asked, source⟩)
    · exact Or.inr (Or.inr ⟨forgotten, List.mem_append_right _ cleared⟩)

/-- A new template may be kept, once the loaders were asked for its name. -/
theorem keep (follows : setting.Follows before after made) {template : Template} {place : Nat}
    (new : before.templates ≤ template.id) (asked : .load place template.name ∈ made)
    (source : Loader.find setting.sources template.name setting.environment.loaders =
      .ok template.source) :
    setting.Follows before (after.keep template) made where
  toGrows := follows.toGrows.of_same rfl rfl (Nat.le_refl _)
  entries := by
    intro name
    rw [State.cache_keep]
    by_cases same : name = template.name
    · subst same
      rw [if_pos rfl]
      exact Or.inr (Or.inl ⟨template, place, rfl, rfl, new, asked, source⟩)
    · rw [if_neg same]
      exact follows.entries name

end Setting.Follows

theorem Setting.follows_log {setting : Setting} {state : State} {made : List Event}
    (elsewhere : ∀ event ∈ made, (∀ id name text, event ≠ .compile id name text) ∧
      ∀ id answer, event ≠ .answer id answer) :
    setting.Follows state (state.log made) made :=
  .of_grows (State.grows_log elsewhere) rfl

theorem Setting.follows_checks (setting : Setting) (state : State) (template : Template) :
    setting.Follows state (state.log (setting.checks state template))
      (setting.checks state template) := by
  apply Setting.follows_log
  intro event member
  obtain ⟨_, _, rfl⟩ := Setting.mem_checks member
  exact ⟨nofun, nofun⟩

theorem Setting.follows_requests (setting : Setting) (state : State) (name : String) :
    setting.Follows state (state.log (setting.requests name)) (setting.requests name) := by
  apply Setting.follows_log
  intro event member
  obtain ⟨_, rfl⟩ := Setting.mem_requests member
  exact ⟨nofun, nofun⟩

theorem Setting.follows_note (setting : Setting) (state : State) {event : Event}
    (elsewhere : (∀ id name text, event ≠ .compile id name text) ∧
      ∀ id answer, event ≠ .answer id answer) :
    setting.Follows state (state.note event) [event] := by
  have logged : setting.Follows state (state.log [event]) [event] :=
    Setting.follows_log (List.forall_mem_singleton.2 elsewhere)
  exact logged

theorem Setting.follows_newTemplate (setting : Setting) (state : State) (name : String)
    (source : Source) : setting.Follows state (state.newTemplate name source).2 [] :=
  .of_grows ((State.Grows.refl state).of_same rfl rfl (Nat.le_succ _)) rfl

theorem Setting.follows_newProcedure (setting : Setting) (state : State) (body : Body) :
    setting.Follows state (state.newProcedure body).2 [] :=
  .of_grows ((State.Grows.refl state).of_same rfl rfl (Nat.le_refl _)) rfl

theorem State.grows_forgetTemplates (state : State) :
    state.Grows state.forgetTemplates [.clear] := by
  have logged : state.Grows (state.log [.clear]) [.clear] :=
    State.grows_log (List.forall_mem_singleton.2 ⟨nofun, nofun⟩)
  exact logged.of_same rfl rfl (Nat.le_refl _)

theorem Setting.follows_forgetTemplates (setting : Setting) (state : State) :
    setting.Follows state state.forgetTemplates [.clear] where
  toGrows := state.grows_forgetTemplates
  entries := fun _ => Or.inr (Or.inr ⟨rfl, List.mem_singleton_self _⟩)

theorem Setting.Follows.settle {setting : Setting} {before between : State} {made : List Event}
    {template : Nat} {name text : String} (unknown : before.compiledForm? template = none)
    (follows : setting.Follows (before.note (.compile (some template) name text)) between made)
    (answer : Except Error Module) :
    setting.Follows before (between.settle template answer)
      (.compile (some template) name text :: made ++ [.answer (some template) answer]) where
  toGrows := follows.toGrows.settle unknown answer
  entries := by
    obtain ⟨compiled, only⟩ := between.settle_only template answer
    intro other
    rw [only]
    rcases follows.entries other with
      same | ⟨kept, place, entry, named, new, asked, source⟩ | ⟨forgotten, cleared⟩
    · exact Or.inl same
    · exact Or.inr (Or.inl ⟨kept, place, entry, named, new, by simp [asked], source⟩)
    · exact Or.inr (Or.inr ⟨forgotten, by simp [cleared]⟩)

namespace Event.Attributed

variable {own other : String → Prop} {made more : List Event}

theorem append (first : Attributed own made) (rest : Attributed own more) :
    Attributed own (made ++ more) := by
  intro place name asked
  rcases List.mem_append.1 asked with asked | asked
  · exact (first place name asked).imp_right (List.mem_append_left _)
  · exact (rest place name asked).imp_right (List.mem_append_right _)

theorem mono (attributed : Attributed own made) (wider : ∀ name, own name → other name) :
    Attributed other made :=
  fun place name asked => (attributed place name asked).imp_left (wider name)

theorem of_no_loads (none : ∀ place name, .load place name ∉ made) : Attributed own made :=
  fun place name asked => absurd asked (none place name)

end Event.Attributed

/-- Whatever loaders have something for a name, the first of them was asked. -/
theorem Setting.load_mem_requests {setting : Setting} {name : String} {source : Source}
    (found : Loader.find setting.sources name setting.environment.loaders = .ok source) :
    .load 0 name ∈ setting.requests name := by
  have positive : 0 < Loader.asked setting.sources name setting.environment.loaders := by
    cases loaders : setting.environment.loaders with
    | nil =>
        rw [loaders] at found
        cases found
    | cons loader rest =>
        unfold Loader.asked
        split <;> exact Nat.succ_pos _
  exact List.mem_map.2 ⟨0, List.mem_range'_1.2 ⟨Nat.le_refl 0, by omega⟩, rfl⟩

end Stencil
