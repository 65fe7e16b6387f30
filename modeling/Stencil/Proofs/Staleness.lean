import Stencil.Proofs.Revisions

set_option autoImplicit false

/-
Stores that are used through handles. A source that was loaded from a store is current exactly as
long as nothing was done to its name since and a handle of the store is left. The argument follows
the revision under which the name was loaded: until the name is changed the store has the name
under it, and afterwards the store has lost it for good.
-/

namespace Stencil

/-- One use of a handle of a store. Handles go by the order in which they were made. -/
inductive Store.Use where
  | add (handle : Nat) (name text : String)
  | remove (handle : Nat) (name : String)
  | load (handle : Nat) (name : String)
  | clone (handle : Nat)
  | drop (handle : Nat)

namespace Store.Use

def handle : Use → Nat
  | add handle _ _ | remove handle _ | load handle _ | clone handle | drop handle => handle

def name? : Use → Option String
  | add _ name _ | remove _ name | load _ name => some name
  | clone _ | drop _ => none

def changed? : Use → Option String
  | add _ name _ | remove _ name => some name
  | load _ _ | clone _ | drop _ => none

def isAddition : Use → Bool
  | add _ _ _ => true
  | _ => false

def onStore : Use → Store → Store
  | add _ name text, store => store.add name text
  | remove _ name, store => store.remove name
  | load _ _, store => store
  | clone _, store => store.hold
  | drop _, store => store.release

/-- What becomes of the handles, of which `true` is one that is alive. -/
def onHandles : Use → List Bool → List Bool
  | clone _, handles => handles ++ [true]
  | drop handle, handles => handles.set handle false
  | add _ _ _, handles | remove _ _, handles | load _ _, handles => handles

end Store.Use

/-- A store among all that loaders read from, and for each handle that it ever had whether the
handle is alive. -/
structure Store.Shared where
  sources : Sources
  store : Nat
  handles : List Bool

namespace Store.Shared

def start (sources : Sources) : Shared := ⟨sources.addStore, sources.stores.length, [true]⟩

/-- What a loader that holds the store has for a name. -/
def get (shared : Shared) (name : String) : Except Error (Option Source) :=
  (Loader.memory shared.store).get shared.sources name

/-- Uses a handle, which has to be alive. -/
def step (shared : Shared) (use : Use) : Option Shared :=
  if shared.handles[use.handle]? = some true then
    some {
      sources := shared.sources.modifyStore shared.store use.onStore
      store := shared.store
      handles := use.onHandles shared.handles }
  else none

def run (shared : Shared) (uses : List Use) : Option Shared := uses.foldlM step shared

end Store.Shared

/-- The store does not have the name under the revision, and never has it so again. For it has
given the revision out, and whatever text the name is said to have had, the store does not have it
with another. -/
def Store.Lost (store : Store) (name : String) (revision : UInt64) : Prop :=
  ∀ text, store.Backs name text revision

theorem Store.Lost.not_current {store : Store} {name : String} {revision : UInt64}
    (lost : store.Lost name revision) : store.isCurrent name revision = false := by
  apply Bool.eq_false_iff.2
  intro current
  have empty := (lost "").current current
  have filled := (lost "x").current current
  rw [empty] at filled
  simp at filled

theorem Store.lost_add (store : Store) (name text : String) {revision : UInt64}
    (given : revision.toNat ≤ store.revision.toNat) (room : store.revision.toNat + 1 < 2 ^ 64) :
    (store.add name text).Lost name revision := by
  have grown : (store.revision + 1).toNat = store.revision.toNat + 1 :=
    store.revision_add name text room
  intro content
  constructor
  · rw [store.revision_add name text room]
    exact Nat.le_succ_of_le given
  · intro other found
    change (store.entries.insert name (text, store.revision + 1)).get? name = _ at found
    rw [Dict.get?_insert, if_pos rfl] at found
    cases found
    omega

theorem Store.lost_remove (store : Store) (name : String) {revision : UInt64}
    (given : revision.toNat ≤ store.revision.toNat) : (store.remove name).Lost name revision := by
  intro content
  constructor
  · exact given
  · intro other found
    change (store.entries.erase name).get? name = _ at found
    rw [Dict.get?_erase, if_pos rfl] at found
    cases found

namespace Store.Use

variable {use : Use} {store : Store} {name text : String} {revision : UInt64}

theorem onStore_bounded (bounded : store.Bounded)
    (room : use.isAddition = true → store.revision.toNat + 1 < 2 ^ 64) :
    (use.onStore store).Bounded := by
  cases use with
  | add handle other content => exact bounded.add other content (room rfl)
  | remove handle other => exact bounded.remove other
  | load handle other => exact bounded
  | clone handle =>
      change store.hold.Bounded
      unfold Store.hold
      split <;> exact bounded
  | drop handle => exact bounded

theorem revision_onStore (room : use.isAddition = true → store.revision.toNat + 1 < 2 ^ 64) :
    (use.onStore store).revision.toNat =
      store.revision.toNat + if use.isAddition then 1 else 0 := by
  cases use with
  | add handle other content => exact store.revision_add other content (room rfl)
  | clone handle =>
      change store.hold.revision.toNat = _
      unfold Store.hold
      split <;> rfl
  | remove | load | drop => rfl

theorem onStore_backs (backs : store.Backs name text revision)
    (room : use.isAddition = true → store.revision.toNat + 1 < 2 ^ 64) :
    (use.onStore store).Backs name text revision := by
  cases use with
  | add handle other content => exact backs.add other content (room rfl)
  | remove handle other => exact backs.remove other
  | load handle other => exact backs
  | clone handle =>
      change store.hold.Backs name text revision
      unfold Store.hold
      split
      · exact backs
      · exact ⟨backs.given, backs.same⟩
  | drop handle => exact ⟨backs.given, backs.same⟩

theorem changed?_of_name? {other : String} (named : use.name? = some other) (differs : other ≠ name) :
    use.changed? ≠ some name := by
  intro changed
  cases use with
  | add | remove => exact differs (Option.some.inj (named.symm.trans changed))
  | load | clone | drop => cases changed

/-- A name stands for what it did unless it is changed. -/
theorem get?_onStore (untouched : use.changed? ≠ some name) :
    (use.onStore store).entries.get? name = store.entries.get? name := by
  cases use with
  | add handle other content =>
      have differs : name ≠ other := fun same => untouched (congrArg some same.symm)
      change (store.entries.insert other _).get? name = _
      rw [Dict.get?_insert, if_neg differs]
  | remove handle other =>
      have differs : name ≠ other := fun same => untouched (congrArg some same.symm)
      change (store.entries.erase other).get? name = _
      rw [Dict.get?_erase, if_neg differs]
  | clone handle =>
      change store.hold.entries.get? name = _
      unfold Store.hold
      split <;> rfl
  | load | drop => rfl

/-- A name that is changed is lost under every revision that was given out before. -/
theorem onStore_lost (touched : use.changed? = some name)
    (given : revision.toNat ≤ store.revision.toNat)
    (room : use.isAddition = true → store.revision.toNat + 1 < 2 ^ 64) :
    (use.onStore store).Lost name revision := by
  cases use with
  | add handle other content =>
      obtain rfl : other = name := Option.some.inj touched
      exact store.lost_add other content given (room rfl)
  | remove handle other =>
      obtain rfl : other = name := Option.some.inj touched
      exact store.lost_remove other given
  | load | clone | drop => cases touched

end Store.Use

/-- The invariant of a store with handles, where `additions` bounds the number of additions. -/
structure Store.Shared.Counted (shared : Shared) (additions : Nat) (store : Store) : Prop where
  listed : shared.sources.stores[shared.store]? = some store
  bounded : store.Bounded
  below : store.revision.toNat ≤ additions
  alive : store.handles = shared.handles.count true

namespace Store.Shared

variable {shared after : Shared} {additions : Nat} {store : Store}

theorem counted_start (sources : Sources) : (start sources).Counted 0 Store.new where
  listed := by
    change (sources.stores ++ [Store.new])[sources.stores.length]? = _
    rw [List.getElem?_concat_length]
  bounded := Store.bounded_new
  below := Nat.le_refl 0
  alive := rfl

theorem step_eq {use : Use} (stepped : shared.step use = some after) :
    shared.handles[use.handle]? = some true ∧
      after = ⟨shared.sources.modifyStore shared.store use.onStore, shared.store,
        use.onHandles shared.handles⟩ := by
  unfold step at stepped
  split at stepped
  · rename_i usable
    exact ⟨usable, (Option.some.inj stepped).symm⟩
  · cases stepped

theorem store_run {uses : List Use} (ran : shared.run uses = some after) :
    after.store = shared.store := by
  induction uses generalizing shared with
  | nil =>
      cases ran
      rfl
  | cons use rest ih =>
      obtain ⟨middle, stepped, ran⟩ := Option.bind_eq_some_iff.1 ran
      rw [ih ran, (step_eq stepped).2]

/-- A store that is held now was held before. -/
theorem held_of_run {uses : List Use} (ran : shared.run uses = some after)
    (held : true ∈ after.handles) : true ∈ shared.handles := by
  cases uses with
  | nil =>
      cases ran
      exact held
  | cons use rest =>
      obtain ⟨middle, stepped, -⟩ := Option.bind_eq_some_iff.1 ran
      exact List.mem_of_getElem? (step_eq stepped).1

theorem handles_run {uses : List Use} (named : ∀ use ∈ uses, use.name? ≠ none)
    (ran : shared.run uses = some after) : after.handles = shared.handles := by
  induction uses generalizing shared with
  | nil =>
      cases ran
      rfl
  | cons use rest ih =>
      obtain ⟨middle, stepped, ran⟩ := Option.bind_eq_some_iff.1 ran
      obtain ⟨-, rfl⟩ := step_eq stepped
      rw [ih (fun other member => named other (List.mem_cons_of_mem use member)) ran]
      have used := named use List.mem_cons_self
      cases use with
      | add | remove | load => rfl
      | clone | drop => exact absurd rfl used

/-- Handles are counted right: a store is held as long as one of them is alive. -/
theorem Counted.handles_onStore (counted : shared.Counted additions store) {use : Use}
    (usable : shared.handles[use.handle]? = some true) :
    (use.onStore store).handles = (use.onHandles shared.handles).count true := by
  have positive : 0 < shared.handles.count true :=
    List.count_pos_iff.2 (List.mem_of_getElem? usable)
  have alive := counted.alive
  cases use with
  | add | remove | load => exact alive
  | clone handle =>
      change store.hold.handles = (shared.handles ++ [true]).count true
      rw [List.count_append, List.count_singleton_self, ← alive, Store.hold, if_neg (by omega)]
  | drop handle =>
      change shared.handles[handle]? = some true at usable
      obtain ⟨inside, found⟩ := List.getElem?_eq_some_iff.1 usable
      change store.handles - 1 = (shared.handles.set handle false).count true
      rw [List.count_set inside, alive, found]
      rfl

theorem Counted.room (counted : shared.Counted additions store) {use : Use}
    (room : additions + (if use.isAddition then 1 else 0) < 2 ^ 64) :
    use.isAddition = true → store.revision.toNat + 1 < 2 ^ 64 := by
  intro adds
  have below := counted.below
  rw [if_pos adds] at room
  omega

theorem Counted.step (counted : shared.Counted additions store) {use : Use}
    (room : additions + (if use.isAddition then 1 else 0) < 2 ^ 64)
    (stepped : shared.step use = some after) :
    after.Counted (additions + if use.isAddition then 1 else 0) (use.onStore store) := by
  obtain ⟨usable, rfl⟩ := step_eq stepped
  have enough := counted.room room
  constructor
  · rw [Sources.getElem?_modifyStore, counted.listed, Option.map_some, if_pos rfl]
  · exact Use.onStore_bounded counted.bounded enough
  · rw [Use.revision_onStore enough]
    exact Nat.add_le_add_right counted.below _
  · exact counted.handles_onStore usable

/-- What the uses of handles keep of a store, one by one, holds of it in the end. -/
theorem Counted.run {P : Store → Prop} {uses : List Use} (counted : shared.Counted additions store)
    (room : additions + uses.countP (·.isAddition) < 2 ^ 64)
    (keeps : ∀ use ∈ uses, ∀ store : Store,
      (use.isAddition = true → store.revision.toNat + 1 < 2 ^ 64) → P store → P (use.onStore store))
    (holds : P store) (ran : shared.run uses = some after) :
    ∃ final, after.Counted (additions + uses.countP (·.isAddition)) final ∧ P final := by
  induction uses generalizing shared additions store with
  | nil =>
      cases ran
      exact ⟨store, counted, holds⟩
  | cons use rest ih =>
      obtain ⟨middle, stepped, ran⟩ := Option.bind_eq_some_iff.1 ran
      rw [List.countP_cons, Nat.add_comm (rest.countP _), ← Nat.add_assoc] at room ⊢
      have enough : additions + (if use.isAddition then 1 else 0) < 2 ^ 64 := by omega
      apply ih (counted.step enough stepped) room _ _ ran
      · exact fun other member => keeps other (List.mem_cons_of_mem use member)
      · exact keeps use List.mem_cons_self store (counted.room enough) holds

variable {name text : String} {revision : UInt64}

/-- The text of a name stays while nothing is done to the name. -/
theorem Counted.run_untouched {uses : List Use} (counted : shared.Counted additions store)
    (room : additions + uses.countP (·.isAddition) < 2 ^ 64)
    (entered : store.entries.get? name = some (text, revision))
    (untouched : ∀ use ∈ uses, use.changed? ≠ some name) (ran : shared.run uses = some after) :
    ∃ final, after.Counted (additions + uses.countP (·.isAddition)) final ∧
      final.entries.get? name = some (text, revision) := by
  refine counted.run (P := fun store => store.entries.get? name = some (text, revision)) room ?_
    entered ran
  intro use member store _ entered
  rw [Use.get?_onStore (untouched use member), entered]

/-- What is lost stays lost. -/
theorem Counted.run_lost {uses : List Use} (counted : shared.Counted additions store)
    (room : additions + uses.countP (·.isAddition) < 2 ^ 64) (lost : store.Lost name revision)
    (ran : shared.run uses = some after) :
    ∃ final, after.Counted (additions + uses.countP (·.isAddition)) final ∧
      final.Lost name revision := by
  refine counted.run (P := fun store => store.Lost name revision) room ?_ lost ran
  exact fun use _ store room lost text => Use.onStore_backs (lost text) room

/-- A name is lost once something is done to it. -/
theorem Counted.run_touched {uses : List Use} (counted : shared.Counted additions store)
    (room : additions + uses.countP (·.isAddition) < 2 ^ 64)
    (backs : store.Backs name text revision) {use : Use} (member : use ∈ uses)
    (touched : use.changed? = some name) (ran : shared.run uses = some after) :
    ∃ final, after.Counted (additions + uses.countP (·.isAddition)) final ∧
      final.Lost name revision := by
  obtain ⟨front, back, rfl⟩ := List.append_of_mem member
  rw [List.countP_append, List.countP_cons] at room
  unfold Shared.run at ran
  rw [List.foldlM_append] at ran
  obtain ⟨middle, early, late⟩ := Option.bind_eq_some_iff.1 ran
  obtain ⟨next, stepped, last⟩ := Option.bind_eq_some_iff.1 late
  obtain ⟨between, counted, backs⟩ := counted.run (P := fun store => store.Backs name text revision)
    (by omega) (fun _ _ _ room backs => Use.onStore_backs backs room) backs early
  have enough : additions + front.countP (·.isAddition) +
      (if use.isAddition then 1 else 0) < 2 ^ 64 := by omega
  have lost := Use.onStore_lost touched backs.given (counted.room enough)
  obtain ⟨final, counted, lost⟩ := (counted.step enough stepped).run_lost (by omega) lost last
  refine ⟨final, ?_, lost⟩
  have same : additions + (front ++ use :: back).countP (·.isAddition) =
      additions + front.countP (·.isAddition) + (if use.isAddition then 1 else 0) +
        back.countP (·.isAddition) := by
    rw [List.countP_append, List.countP_cons]
    omega
  rw [same]
  exact counted

theorem Counted.get_eq (counted : shared.Counted additions store) (name : String) :
    shared.get name = .ok ((store.entries.get? name).map fun entry =>
      ⟨entry.1, none, some (.revision shared.store name entry.2)⟩) := by
  change Except.ok (shared.sources.stores[shared.store]?.bind fun store =>
    store.source? shared.store name) = _
  rw [counted.listed, Option.bind_some]
  rfl

theorem Counted.holds_eq (counted : shared.Counted additions store) (name : String)
    (revision : UInt64) (checked : Nat) :
    (Freshness.revision shared.store name revision).holds shared.sources checked =
      store.isCurrent name revision := by
  change Option.any (fun store => store.isCurrent name revision)
    shared.sources.stores[shared.store]? = _
  rw [counted.listed, Option.any_some]

/-- A store that has a name under a revision answers for it while a handle is alive. -/
theorem Counted.isCurrent_iff (counted : shared.Counted additions store)
    (entered : store.entries.get? name = some (text, revision)) :
    store.isCurrent name revision = true ↔ true ∈ shared.handles := by
  unfold Store.isCurrent
  rw [entered, Option.any_some, beq_self_eq_true, Bool.and_true, decide_eq_true_iff, counted.alive,
    ← Nat.pos_iff_ne_zero, List.count_pos_iff]

/-- What follows a moment at which the store had the name under the revision. -/
theorem Counted.current_after (counted : shared.Counted additions store)
    (entered : store.entries.get? name = some (text, revision)) {uses : List Use}
    (room : additions + uses.countP (·.isAddition) < 2 ^ 64) (ran : shared.run uses = some after) :
    (∀ checked, (Freshness.revision shared.store name revision).holds after.sources checked = true ↔
      (∀ use ∈ uses, use.changed? ≠ some name) ∧ true ∈ after.handles) ∧
    ((∀ use ∈ uses, use.changed? ≠ some name) → after.get name = shared.get name) := by
  have same := store_run ran
  by_cases untouched : ∀ use ∈ uses, use.changed? ≠ some name
  · obtain ⟨final, counts, stays⟩ := counted.run_untouched room entered untouched ran
    refine ⟨fun checked => ?_, fun _ => ?_⟩
    · rw [← same, counts.holds_eq, counts.isCurrent_iff stays]
      exact ⟨fun held => ⟨untouched, held⟩, fun both => both.2⟩
    · rw [counts.get_eq, counted.get_eq, stays, entered, same]
  · refine ⟨fun checked => ⟨fun current => ?_, fun both => absurd both.1 untouched⟩,
      fun all => absurd all untouched⟩
    obtain ⟨use, member, touched⟩ : ∃ use ∈ uses, use.changed? = some name := by
      simpa using untouched
    obtain ⟨final, counts, lost⟩ :=
      counted.run_touched room (counted.bounded.backs entered) member touched ran
    rw [← same, counts.holds_eq, lost.not_current] at current
    cases current

end Store.Shared

/-- A source that was loaded from a store under a name is current as long as nothing was added or
removed under the name since and a handle of the store is alive, however many checks were made. While it
is current the store has the same for the name; uses of other names do not matter to it, and it is never
current again. -/
theorem current_iff_untouched (sources : Sources) {before since : List Store.Use}
    {loaded now : Store.Shared} (room : (before ++ since).countP (·.isAddition) < 2 ^ 64)
    (reached : (Store.Shared.start sources).run before = some loaded)
    (ran : loaded.run since = some now) {name : String} {source : Source}
    (found : loaded.get name = .ok (some source)) :
    ∃ freshness, source.freshness = some freshness ∧ ∀ checked,
      (freshness.holds now.sources checked = true ↔
        (∀ use ∈ since, use.changed? ≠ some name) ∧ true ∈ now.handles) ∧
      (freshness.holds now.sources checked = true → now.get name = .ok (some source)) ∧
      ∀ more later further, (before ++ since ++ more).countP (·.isAddition) < 2 ^ 64 →
        now.run more = some later →
        ((∀ use ∈ more, ∃ other, use.name? = some other ∧ other ≠ name) →
          freshness.holds later.sources further = freshness.holds now.sources checked) ∧
        (freshness.holds now.sources checked = false →
          freshness.holds later.sources further = false) := by
  rw [List.countP_append] at room
  obtain ⟨store, counted, -⟩ := (Store.Shared.counted_start sources).run (P := fun _ => True)
    (by omega) (fun _ _ _ _ _ => trivial) trivial reached
  rw [Nat.zero_add] at counted
  have known := counted.get_eq name
  rw [found] at known
  obtain ⟨⟨text, revision⟩, entered, rfl⟩ :=
    Option.map_eq_some_iff.1 (Except.ok.inj known).symm
  obtain ⟨current, same⟩ := counted.current_after entered room ran
  refine ⟨_, rfl, fun checked => ⟨current checked, ?_, ?_⟩⟩
  · intro holds
    rw [same ((current checked).1 holds).1, found]
  · intro more later further enough went
    have all : loaded.run (since ++ more) = some later := by
      unfold Store.Shared.run at ran went ⊢
      rw [List.foldlM_append, ran]
      exact went
    rw [List.append_assoc, List.countP_append] at enough
    obtain ⟨afterwards, -⟩ := counted.current_after entered enough all
    constructor
    · intro others
      have untouched : ∀ use ∈ more, use.changed? ≠ some name := by
        intro use member
        obtain ⟨other, named, differs⟩ := others use member
        exact Store.Use.changed?_of_name? named differs
      have handles : later.handles = now.handles := by
        apply Store.Shared.handles_run _ went
        intro use member unnamed
        obtain ⟨other, named, -⟩ := others use member
        rw [unnamed] at named
        cases named
      rw [Bool.eq_iff_iff, afterwards, current, handles, List.forall_mem_append]
      exact ⟨fun both => ⟨both.1.1, both.2⟩, fun both => ⟨⟨both.1, untouched⟩, both.2⟩⟩
    · intro stale
      apply Bool.eq_false_iff.2
      intro holds
      obtain ⟨untouched, held⟩ := (afterwards further).1 holds
      have before := (List.forall_mem_append.1 untouched).1
      have impossible := (current checked).2 ⟨before, Store.Shared.held_of_run went held⟩
      rw [stale] at impossible
      cases impossible

/-- A template stays current while another one is replaced and the first handle is dropped. Then it
is removed and added again with the same text, and is current no more. -/
theorem current_iff_untouched_readded :
    let before : List Store.Use := [.add 0 "page" "text", .clone 0, .add 1 "other" "old"]
    let since : List Store.Use := [.add 1 "other" "new", .drop 0, .load 1 "page"]
    let more : List Store.Use := [.remove 1 "page", .add 1 "page" "text"]
    (before ++ since ++ more).countP (·.isAddition) < 2 ^ 64 ∧
    ∃ loaded now later source freshness,
      (Store.Shared.start .empty).run before = some loaded ∧ loaded.run since = some now ∧
      now.run more = some later ∧ loaded.get "page" = .ok (some source) ∧
      source.freshness = some freshness ∧ ∀ checked,
        freshness.holds now.sources checked = true ∧
        freshness.holds later.sources checked = false := by
  intro before since more
  obtain ⟨loaded, reached, now, ran, later, went⟩ :
      ∃ loaded, (Store.Shared.start .empty).run before = some loaded ∧
        ∃ now, loaded.run since = some now ∧ ∃ later, now.run more = some later :=
    ⟨_, rfl, _, rfl, _, rfl⟩
  have all : loaded.run (since ++ more) = some later := by
    unfold Store.Shared.run at ran went ⊢
    rw [List.foldlM_append, ran]
    exact went
  obtain ⟨source, found⟩ : ∃ source, loaded.get "page" = .ok (some source) := by
    cases reached
    exact ⟨_, rfl⟩
  obtain ⟨freshness, known, current⟩ :=
    current_iff_untouched .empty (by decide) reached ran found
  obtain ⟨same, alsoKnown, changed⟩ :=
    current_iff_untouched .empty (by decide) reached all found
  obtain rfl : freshness = same := Option.some.inj (known.symm.trans alsoKnown)
  refine ⟨by decide, loaded, now, later, source, freshness, reached, ran, went, found, known, ?_⟩
  intro checked
  constructor
  · refine (current checked).1.2 ⟨by decide, ?_⟩
    cases reached
    cases ran
    decide
  · apply Bool.eq_false_iff.2
    intro holds
    exact ((changed checked).1.1 holds).1 (.remove 1 "page") (by simp [since, more]) rfl

end Stencil
