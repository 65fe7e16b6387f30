import Stencil.Proofs.Atomicity
import Stencil.Proofs.SearchOrder

set_option autoImplicit false

/-
Files that change while templates are loaded and looked up. A search reads the modification time of a
file first and its text later, and anything may be done to the file in between. When the time is
still the same at some moment after the search, nothing was done to the file since the time was
read, so the text that was loaded is the text of that moment.
-/

namespace Stencil

/-- What can be read at a path: when it was modified, and the text that it holds. -/
def Tree.sight (tree : Tree) (path : String) : Option Int × Except Obstacle String :=
  (tree.modified path, tree.readText path)

/-- Whatever comes to be at the path in the course of a history, which has a tree for each moment,
has a modification time that the path never had before. -/
def Path.Stamped (history : Nat → Tree) (path : String) : Prop :=
  ∀ moment stamp, (history (moment + 1)).sight path ≠ (history moment).sight path →
    (history (moment + 1)).modified path = some stamp →
    ∀ earlier ≤ moment, (history earlier).modified path ≠ some stamp

/-- A modification time that is still there was there all the time, with the same text. -/
theorem Path.Stamped.unchanged {history : Nat → Tree} {path : String} (stamped : Stamped history path)
    {early late : Nat} (le : early ≤ late) {stamp : Int}
    (first : (history early).modified path = some stamp)
    (last : (history late).modified path = some stamp) :
    ∀ between, early ≤ between → between ≤ late →
      (history between).sight path = (history early).sight path := by
  induction le with
  | refl =>
      intro between lower upper
      rw [Nat.le_antisymm upper lower]
  | @step late le ih =>
      -- If the last step has changed anything, then the time was new at its end.
      have same : (history (late + 1)).sight path = (history late).sight path := by
        by_contra changed
        exact stamped late stamp changed last early le first
      have before : (history late).modified path = some stamp := by
        rw [← last]
        exact (congrArg Prod.fst same).symm
      intro between lower upper
      rcases Nat.lt_or_eq_of_le upper with earlier | rfl
      · exact ih before between lower (Nat.le_of_lt_succ earlier)
      · exact same.trans (ih before late le (Nat.le_refl late))

/-- A search that finds a source has read the modification time of a path in one step, and its text in
the next. -/
theorem Directory.reads_of_searchFrom {tree : Nat → Tree} {name : String} {source : Source}
    {directories : List String} {step : Nat}
    (found : searchFrom tree name step directories = .ok (some source)) :
    ∃ path start, start + 3 ≤ step + 3 * directories.length ∧ source.path = some path ∧
      source.freshness = some (.modified path ((tree (start + 1)).modified path)) ∧
      (tree (start + 2)).readText path = .ok source.text := by
  induction directories generalizing step with
  | nil => cases found
  | cons directory rest ih =>
      have later : ∀ next ≤ step + 3, searchFrom tree name next rest = .ok (some source) →
          ∃ path start, start + 3 ≤ step + 3 * (directory :: rest).length ∧
            source.path = some path ∧
            source.freshness = some (.modified path ((tree (start + 1)).modified path)) ∧
            (tree (start + 2)).readText path = .ok source.text := by
        intro next le found
        obtain ⟨path, start, bound, read⟩ := ih found
        refine ⟨path, start, ?_, read⟩
        rw [List.length_cons]
        omega
      rw [searchFrom] at found
      split at found
      · cases found
      · rename_i path joined
        split at found
        · exact later (step + 1) (by omega) found
        · split at found
          · rename_i text read
            cases found
            refine ⟨path, step, ?_, rfl, rfl, read⟩
            rw [List.length_cons]
            omega
          · exact later (step + 3) (Nat.le_refl _) found
          · cases found

/-- A lookup that asks no loader gives out the template that is kept, which is current. -/
theorem Setting.current_of_unasked {setting : Setting} {calls : Calls}
    (regular : calls.Regular setting) {name : String} {eager : Bool} {state after : State}
    {template : Template} {made : List Event}
    (ended : setting.fetch calls name eager state = some (.ok template, after))
    (events : after.events = state.events ++ made) (unasked : ∀ place, .load place name ∉ made) :
    setting.Current state name template := by
  by_cases current : ∃ kept, setting.Current state name kept
  · obtain ⟨kept, current⟩ := current
    obtain ⟨verdict, -, -, -, same, -⟩ := Setting.reuses regular ended current
    cases verdict with
    | error error => cases same
    | ok _ =>
        cases same
        exact current
  · obtain ⟨asked, answer, search, rest⟩ := Setting.renews regular ended (not_exists.1 current)
    cases search with
    | exhausted | failed => cases rest.1
    | found passed behind loader source =>
        obtain ⟨verdict, left, further, -, logged, -⟩ := rest
        have member : Event.load 0 name ∈ made := by
          rw [events, List.append_assoc, List.append_assoc, List.append_cancel_left_eq] at logged
          rw [logged]
          apply List.mem_append_right
          apply List.mem_append_left
          exact List.mem_map.2 ⟨0, List.mem_range'_1.2 ⟨Nat.le_refl 0, by omega⟩, rfl⟩
        exact absurd member (unasked 0)

/-- A source that was found in a history, by a search whose steps fell on moments of it, counts as
unmodified exactly as long as nothing was done to its path since its modification time was read. So as
long as it does, its text is what the path holds, and a template that was loaded from it and is given
out without asking the loaders has the text that its file has at that moment. -/
theorem unmodified_means_current {history : Nat → Tree} {moment : Nat → Nat}
    (inOrder : ∀ early late, early ≤ late → moment early ≤ moment late)
    {name : String} {directories : List String} {source : Source}
    (found : Directory.searchFrom (fun step => history (moment step)) name 0 directories =
      .ok (some source))
    (stamped : ∀ path, source.path = some path → Path.Stamped history path) :
    ∃ path taken freshness, source.path = some path ∧ source.freshness = some freshness ∧
      ∀ now sources checked, moment (3 * directories.length) ≤ now → sources.files = history now →
        (freshness.holds sources checked = true ↔
          ((history taken).modified path).isSome ∧ ∀ since, taken ≤ since → since ≤ now →
            (history since).sight path = (history taken).sight path) ∧
        (freshness.holds sources checked = true → (history now).readText path = .ok source.text) ∧
        ∀ (environment : Environment) (level : Nat) (eager : Bool) (state after : State)
          (template given : Template) (made : List Event),
          let setting : Setting := ⟨environment, sources⟩
          state.cache.get? name = some template → template.source = source →
          setting.fetch (setting.calls level) name eager state = some (.ok given, after) →
          after.events = state.events ++ made → (∀ place, .load place name ∉ made) →
          given = template ∧ (history now).readText path = .ok given.source.text := by
  obtain ⟨path, start, bound, located, fresh, read⟩ := Directory.reads_of_searchFrom found
  rw [Nat.zero_add] at bound
  refine ⟨path, moment (start + 1), _, located, fresh, ?_⟩
  intro now sources checked behind files
  have taken : moment (start + 1) ≤ moment (start + 2) := inOrder _ _ (Nat.le_succ _)
  have before : moment (start + 2) ≤ now := Nat.le_trans (inOrder _ _ (by omega)) behind
  have holds : ∀ checked,
      (Freshness.modified path ((history (moment (start + 1))).modified path)).holds sources checked =
        true ↔ ((history (moment (start + 1))).modified path).isSome ∧
          ∀ since, moment (start + 1) ≤ since → since ≤ now →
            (history since).sight path = (history (moment (start + 1))).sight path := by
    intro checked
    change (_ && (sources.files.modified path == _)) = true ↔ _
    rw [files, Bool.and_eq_true, beq_iff_eq]
    constructor
    · rintro ⟨there, same⟩
      obtain ⟨stamp, known⟩ := Option.isSome_iff_exists.1 there
      rw [known] at same
      exact ⟨there, (stamped path located).unchanged (Nat.le_trans taken before) known same⟩
    · rintro ⟨there, unchanged⟩
      have same := unchanged now (Nat.le_trans taken before) (Nat.le_refl now)
      exact ⟨there, congrArg Prod.fst same⟩
  have current : ∀ checked,
      (Freshness.modified path ((history (moment (start + 1))).modified path)).holds sources checked =
        true → (history now).readText path = .ok source.text := by
    intro checked unmodified
    obtain ⟨-, unchanged⟩ := (holds checked).1 unmodified
    have atEnd := unchanged now (Nat.le_trans taken before) (Nat.le_refl now)
    have atRead := unchanged (moment (start + 2)) taken before
    have same : (history now).readText path = (history (moment (start + 2))).readText path :=
      congrArg Prod.snd (atEnd.trans atRead.symm)
    rw [same, read]
  refine ⟨holds checked, current checked, ?_⟩
  intro environment level eager state after template given made setting kept loaded ended events unasked
  obtain ⟨entry, isFresh⟩ :=
    Setting.current_of_unasked (setting.calls_regular level) ended events unasked
  obtain rfl : template = given := Option.some.inj (kept.symm.trans entry)
  refine ⟨rfl, ?_⟩
  unfold Setting.isFresh at isFresh
  rw [loaded, fresh] at isFresh
  rw [loaded]
  exact current state.checked isFresh

/-- A file that is written, written again, removed, and put there again as it was at first. -/
def Tree.turbulent (moment : Nat) : Tree :=
  let first := Tree.empty.withText 1 "pages/page" "old"
  let second := first.withText 2 "pages/page" "new"
  let third := (second.remove "pages/page").toOption.getD second
  [first, second, third].getD moment (third.withText 3 "pages/page" "old")

theorem Path.stamped_turbulent : Path.Stamped Tree.turbulent "pages/page" := by
  intro moment stamp changed known earlier le
  match moment with
  | 0 =>
      obtain rfl : earlier = 0 := by omega
      have now : (Tree.turbulent 1).modified "pages/page" = some 2 := by rfl
      rw [← known, now]
      decide +kernel
  | 1 =>
      have gone : (Tree.turbulent 2).modified "pages/page" = none := by rfl
      rw [gone] at known
      cases known
  | 2 =>
      have now : (Tree.turbulent 3).modified "pages/page" = some 3 := by rfl
      rw [← known, now]
      match earlier with
      | 0 | 1 | 2 => decide +kernel
      | later + 3 => omega
  | later + 3 => exact absurd rfl changed

/-- The file is put there again while a search looks for it. The template that is loaded then is
current at that moment, and is given out. One that was loaded before the file was removed is not
current, although the file has its text again. -/
theorem unmodified_means_current_again :
    let moment : Nat → Nat := fun step => if step = 0 then 2 else 3
    let loaded (stamp : Int) : Source :=
      ⟨"old", some "pages/page", some (.modified "pages/page" (some stamp))⟩
    let template : Template := ⟨0, "page", loaded 3⟩
    let setting : Setting := ⟨⟨[], none, ∅, .assumeStale⟩, ⟨[], Tree.turbulent 3, ∅⟩⟩
    let state : State := { State.initial with
      cache := (∅ : Dict Template).insert "page" template, templates := 1 }
    Directory.search (Tree.turbulent 0) ["pages"] "page" = .ok (some (loaded 1)) ∧
    (Freshness.modified "pages/page" (some 1)).holds setting.sources state.checked = false ∧
    Directory.searchFrom (fun step => Tree.turbulent (moment step)) "page" 0 ["pages"] =
      .ok (some (loaded 3)) ∧
    ∃ after, setting.fetch (setting.calls 0) "page" false state = some (.ok template, after) ∧
      (Tree.turbulent 3).readText "pages/page" = .ok template.source.text := by
  intro moment loaded template setting state
  have inOrder : ∀ early late, early ≤ late → moment early ≤ moment late := by
    intro early late le
    simp only [moment]
    split <;> split <;> omega
  have found : Directory.searchFrom (fun step => Tree.turbulent (moment step)) "page" 0 ["pages"] =
      .ok (some (loaded 3)) := by rfl
  have stamped : ∀ path, (loaded 3).path = some path → Path.Stamped Tree.turbulent path := by
    intro path located
    obtain rfl := Option.some.inj located
    exact Path.stamped_turbulent
  obtain ⟨path, taken, freshness, located, -, current⟩ :=
    unmodified_means_current inOrder found stamped
  obtain rfl := Option.some.inj located
  obtain ⟨-, -, given⟩ := current 3 setting.sources 0 (Nat.le_refl 3) rfl
  obtain ⟨after, ended, events⟩ : ∃ after,
      setting.fetch (setting.calls 0) "page" false state = some (.ok template, after) ∧
      after.events = state.events ++ setting.checks state template := ⟨_, rfl, rfl⟩
  have unasked : ∀ place, .load place "page" ∉ setting.checks state template := by
    intro place member
    obtain ⟨_, _, impossible⟩ := Setting.mem_checks member
    cases impossible
  obtain ⟨-, text⟩ := given setting.environment 0 false state after template template _ rfl rfl ended
    events unasked
  exact ⟨by rfl, by rfl, found, after, ended, text⟩

end Stencil
