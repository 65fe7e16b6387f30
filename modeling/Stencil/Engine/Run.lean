import Stencil.Engine.State

set_option autoImplicit false

namespace Stencil

/-- A run with a result of type `α`; `none` is a run that went too deep. -/
def Run (α : Type) : Type := State → Option (Except Error α × State)

namespace Run

variable {α β : Type}

def pure (value : α) : Run α := fun state => some (.ok value, state)

def bind (run : Run α) (next : α → Run β) : Run β := fun state =>
  match run state with
  | none => none
  | some (.error error, after) => some (.error error, after)
  | some (.ok value, after) => next value after

instance : Monad Run where
  pure := pure
  bind := bind

def fail (error : Error) : Run α := fun state => some (.error error, state)

def tooDeep : Run α := fun _ => none

def ofExcept (result : Except Error α) : Run α := fun state => some (result, state)

def attempt (run : Run α) : Run (Except Error α) := fun state =>
  (run state).map fun outcome => (.ok outcome.1, outcome.2)

/-- The run whose errors are blamed on a template, unless they blame one already. -/
def blame (name : String) (run : Run α) : Run α := fun state =>
  (run state).map fun outcome => (outcome.1.mapError (·.inTemplate name), outcome.2)

def state : Run State := fun state => some (.ok state, state)

def change (f : State → α × State) : Run α := fun state => some (.ok (f state).1, (f state).2)

def update (f : State → State) : Run Unit := fun state => some (.ok (), f state)

def note (event : Event) : Run Unit := update (·.note event)

theorem bind_eq (run : Run α) (next : α → Run β) : run >>= next = bind run next := rfl

theorem bind_pure (run : Run α) : bind run pure = run := by
  funext before
  simp only [bind, pure]
  split <;> simp_all

theorem bind_assoc {γ : Type} (run : Run α) (next : α → Run β) (last : β → Run γ) :
    bind (bind run next) last = bind run fun value => bind (next value) last := by
  funext before
  simp only [bind]
  cases run before with
  | none => rfl
  | some outcome =>
    obtain ⟨result, after⟩ := outcome
    cases result <;> rfl

instance : LawfulMonad Run :=
  LawfulMonad.mk' Run (fun run => bind_pure run) (fun _ _ => rfl) bind_assoc

theorem bind_of_none {run : Run α} {before : State} (next : α → Run β)
    (endless : run before = none) : (run >>= next) before = none := by
  rw [bind_eq, bind, endless]

theorem bind_of_error {run : Run α} {before after : State} {error : Error} (next : α → Run β)
    (failed : run before = some (.error error, after)) :
    (run >>= next) before = some (.error error, after) := by
  rw [bind_eq, bind, failed]

theorem bind_of_ok {run : Run α} {before after : State} {value : α} (next : α → Run β)
    (ended : run before = some (.ok value, after)) : (run >>= next) before = next value after := by
  rw [bind_eq, bind, ended]

theorem attempt_of_none {run : Run α} {before : State} (endless : run before = none) :
    run.attempt before = none := by
  rw [attempt, endless, Option.map_none]

theorem attempt_of_some {run : Run α} {before after : State} {result : Except Error α}
    (ended : run before = some (result, after)) :
    run.attempt before = some (.ok result, after) := by
  rw [attempt, ended, Option.map_some]

end Run

end Stencil
