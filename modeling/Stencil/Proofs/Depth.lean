import Stencil.Proofs.Simulation

set_option autoImplicit false

namespace Stencil

/-- Where the first run ends, the second does the same. -/
def Run.Below {α : Type} (run other : Run α) : Prop :=
  ∀ state outcome, run state = some outcome → other state = some outcome

theorem Run.Below.bind {α β : Type} {run other : Run α} {next after : α → Run β}
    (first : run.Below other) (rest : ∀ value, (next value).Below (after value)) :
    (run >>= next).Below (other >>= after) := by
  intro state outcome ended
  rw [Run.bind_eq] at ended ⊢
  unfold Run.bind at ended ⊢
  cases reached : run state with
  | none =>
      rw [reached] at ended
      cases ended
  | some middle =>
      rw [first state middle reached]
      rw [reached] at ended
      obtain ⟨result, between⟩ := middle
      cases result with
      | error error => exact ended
      | ok value => exact rest value between outcome ended

theorem Run.Below.map_outcome {α β : Type} {run other : Run α}
    (f : Except Error α × State → β × State) (below : run.Below other) (state : State)
    (outcome : β × State) (ended : (run state).map f = some outcome) :
    (other state).map f = some outcome := by
  obtain ⟨middle, reached, same⟩ := Option.map_eq_some_iff.1 ended
  rw [below state middle reached, Option.map_some, same]

theorem Run.below_lifts : Run.Lifts fun _ => Run.Below where
  refl := fun _ _ _ ended => ended
  bind := Run.Below.bind
  attempt := fun below state outcome ended => below.map_outcome _ state outcome ended
  blame := fun _ below state outcome ended => below.map_outcome _ state outcome ended

/-- Calls that may nest deeper do whatever those that may nest less deep do. -/
theorem Setting.calls_below (setting : Setting) {level deeper : Nat} (le : level ≤ deeper) :
    Calls.Related (fun _ => Run.Below) (fun _ => True) (setting.calls level)
      (setting.calls deeper) := by
  induction level generalizing deeper with
  | zero =>
      constructor
      · intro _ _ _ _ _ ended
        cases ended
      · intro _ _ _ _ _ ended
        cases ended
  | succ level ih =>
      obtain ⟨below, rfl⟩ : ∃ below, deeper = below + 1 := ⟨deeper - 1, by omega⟩
      have related := ih (show level ≤ below by omega)
      constructor
      · intro procedure scope _
        exact Procedure.run_related Run.below_lifts Scope.closed_true related setting procedure
          scope trivial
      · intro compiler name text
        exact Recipe.run_related Run.below_lifts Scope.closed_true related setting compiler _

/-- A procedure that renders within some depth renders the same within a larger one. -/
theorem Setting.invoke_deeper (setting : Setting) {level deeper : Nat} (le : level ≤ deeper)
    (procedure : Procedure) (scope : Scope) :
    ((setting.calls level).invoke procedure scope).Below
      ((setting.calls deeper).invoke procedure scope) :=
  (setting.calls_below le).invoke procedure scope trivial

end Stencil
