import Stencil.Engine.Calls

set_option autoImplicit false

namespace Stencil

/-- The height of the stack behind an instruction, if the instruction finds enough values. -/
def Op.height (before : Nat) : Op → Option Nat
  | .text _ | .block _ | .super => some before
  | .lookup _ | .const _ => some (before + 1)
  | .filter _ count => if count < before then some (before - count) else none
  | .emit => if before = 0 then none else some (before - 1)

/-- The height of the stack behind instructions, if each of them finds enough values. -/
def Code.height (before : Nat) (code : Code) : Option Nat := code.foldlM Op.height before

theorem Code.height_nil (before : Nat) : Code.height before [] = some before := rfl

theorem Code.height_cons (before : Nat) (op : Op) (rest : Code) :
    Code.height before (op :: rest) = (op.height before).bind fun middle => Code.height middle rest :=
  List.foldlM_cons

theorem Code.height_append (before : Nat) (first second : Code) :
    Code.height before (first ++ second) =
      (Code.height before first).bind fun middle => Code.height middle second := by
  unfold Code.height
  rw [List.foldlM_append]
  rfl

/-- Instructions that find enough values on the empty stack, and leave nothing on it. -/
def Code.Balanced (code : Code) : Prop := Code.height 0 code = some 0

theorem Code.balanced_nil : Code.Balanced [] := Code.height_nil 0

theorem Code.Balanced.append {first second : Code} (balanced : first.Balanced)
    (alsoBalanced : second.Balanced) : Code.Balanced (first ++ second) := by
  unfold Code.Balanced at balanced alsoBalanced ⊢
  rw [Code.height_append, balanced, Option.bind_some, alsoBalanced]

/-- Errors that are allowed after some calls, the latest first. Older calls make no difference. -/
structure Run.Faults where
  allowed : List Event → Error → Prop
  older : ∀ events error earlier, allowed events error → allowed (events ++ earlier) error

/-- The run ends whatever state it starts from, with a value that is as it should be or with an
error that is allowed after the calls that it made. -/
def Run.Settles {α : Type} (faults : Run.Faults) (P : α → Prop) (run : Run α) : Prop :=
  ∀ state, ∃ result after events, run state = some (result, after) ∧
    after.record = events ++ state.record ∧
    match result with
    | .ok value => P value
    | .error error => faults.allowed events error

section Settles

variable {α β : Type} {faults : Run.Faults} {P : α → Prop} {Q : β → Prop}

theorem Run.settles_pure {value : α} (right : P value) :
    Run.Settles faults P (Run.pure value) :=
  fun state => ⟨.ok value, state, [], rfl, rfl, right⟩

theorem Run.settles_fail {error : Error} (allowed : faults.allowed [] error) :
    Run.Settles faults P (Run.fail error) :=
  fun state => ⟨.error error, state, [], rfl, rfl, allowed⟩

theorem Run.Settles.bind {run : Run α} {next : α → Run β} (first : run.Settles faults P)
    (rest : ∀ value, P value → (next value).Settles faults Q) :
    (run >>= next).Settles faults Q := by
  intro state
  obtain ⟨result, middle, events, ended, grown, right⟩ := first state
  cases result with
  | error error =>
      exact ⟨.error error, middle, events, Run.bind_of_error next ended, grown, right⟩
  | ok value =>
      obtain ⟨result, after, more, finished, grownMore, right⟩ := rest value right middle
      refine ⟨result, after, more ++ events, ?_, ?_, ?_⟩
      · rw [Run.bind_of_ok next ended, finished]
      · rw [grownMore, grown, List.append_assoc]
      · cases result with
        | ok value => exact right
        | error error => exact faults.older more error events right

end Settles

/-- Whatever goes wrong with a filter is allowed: it may be unknown, or its call, which is the
latest, may have failed. -/
structure Setting.AllowsFilters (setting : Setting) (faults : Run.Faults) : Prop where
  unknown : ∀ name, setting.environment.filters.get? name = none →
    faults.allowed [] (.unknownFilter name)
  failed : ∀ name filter value args error, setting.environment.filters.get? name = some filter →
    filter.apply value args = .error error → faults.allowed [.filter name value args] error

theorem Machine.popMany_of_lt (machine : Machine) {count : Nat}
    (enough : count < machine.stack.length) :
    ∃ args value rest,
      machine.popMany count = .ok (args, { machine with stack := value :: rest }) ∧
      rest.length + 1 = machine.stack.length - count := by
  have deep : ¬ machine.stack.length < count := by omega
  cases below : machine.stack.drop count with
  | nil =>
      have few := List.drop_eq_nil_iff.1 below
      omega
  | cons value rest =>
      refine ⟨(machine.stack.take count).reverse, value, rest, ?_, ?_⟩
      · rw [Machine.popMany, if_neg deep, below]
      · rw [← List.length_drop, below, List.length_cons]

section Running

variable {setting : Setting} {calls : Calls} {scope : Scope} {faults : Run.Faults}
variable (allows : setting.AllowsFilters faults)

include allows

theorem Setting.applyFilter_settles (name : String) (value : Value) (args : List Value) :
    (setting.applyFilter name value args).Settles faults fun _ => True := by
  intro state
  unfold Setting.applyFilter
  cases known : setting.environment.filters.get? name with
  | none => exact ⟨_, state, [], rfl, rfl, allows.unknown name known⟩
  | some filter =>
      refine ⟨filter.apply value args, state.note (.filter name value args),
        [.filter name value args], rfl, rfl, ?_⟩
      cases applied : filter.apply value args with
      | ok result => trivial
      | error error => exact allows.failed name filter value args error known applied

/-- An instruction that finds enough values leaves the height that it should. -/
theorem Op.run_settles {op : Op} {before after : Nat} (fits : op.height before = some after)
    {machine : Machine} (held : machine.stack.length = before)
    (block : ∀ name, op = .block name →
      (scope.renderBlock calls name).Settles faults fun _ => True)
    (super : op = .super → (scope.renderSuper calls).Settles faults fun _ => True) :
    (op.run setting calls scope machine).Settles faults
      fun machine => machine.stack.length = after := by
  cases op with
  | text s =>
      cases fits
      exact Run.settles_pure held
  | lookup name | const value =>
      cases fits
      apply Run.settles_pure
      exact congrArg (· + 1) held
  | filter name count =>
      rw [Op.height] at fits
      split at fits
      · rename_i enough
        cases fits
        rw [← held] at enough
        obtain ⟨args, value, rest, popped, left⟩ := machine.popMany_of_lt enough
        change Run.Settles _ _ (Run.ofExcept (machine.popMany count) >>= _)
        rw [popped]
        apply (Setting.applyFilter_settles allows name value args).bind
        intro result _
        apply Run.settles_pure
        change rest.length + 1 = before - count
        omega
      · cases fits
  | emit =>
      rw [Op.height] at fits
      split at fits
      · cases fits
      · rename_i positive
        cases fits
        obtain ⟨stack, output⟩ := machine
        cases stack with
        | nil => exact absurd held.symm positive
        | cons value rest =>
            apply Run.settles_pure
            change rest.length = before - 1
            rw [← held]
            rfl
  | block name =>
      cases fits
      apply (block name rfl).bind
      intro output _
      exact Run.settles_pure held
  | super =>
      cases fits
      apply (super rfl).bind
      intro output _
      exact Run.settles_pure held

theorem Code.runFrom_settles {code : Code} {before after : Nat}
    (fits : Code.height before code = some after) {machine : Machine}
    (held : machine.stack.length = before)
    (block : ∀ name, .block name ∈ code →
      (scope.renderBlock calls name).Settles faults fun _ => True)
    (super : .super ∈ code → (scope.renderSuper calls).Settles faults fun _ => True) :
    (Code.runFrom setting calls scope machine code).Settles faults
      fun machine => machine.stack.length = after := by
  induction code generalizing before machine with
  | nil =>
      cases fits
      exact Run.settles_pure held
  | cons op rest ih =>
      rw [Code.height_cons] at fits
      obtain ⟨middle, first, fits⟩ := Option.bind_eq_some_iff.1 fits
      have early := Op.run_settles allows first held
        (fun name same => block name (same ▸ List.mem_cons_self))
        (fun same => super (same ▸ List.mem_cons_self))
      apply early.bind
      intro machine held
      exact ih fits held (fun name later => block name (List.mem_cons_of_mem op later))
        (fun later => super (List.mem_cons_of_mem op later))

/-- Balanced instructions never run out of values. -/
theorem Code.Balanced.run_settles {code : Code} (balanced : code.Balanced)
    (block : ∀ name, .block name ∈ code →
      (scope.renderBlock calls name).Settles faults fun _ => True)
    (super : .super ∈ code → (scope.renderSuper calls).Settles faults fun _ => True) :
    (Code.run setting calls scope code).Settles faults fun _ => True := by
  apply (Code.runFrom_settles allows balanced rfl block super).bind
  intro machine _
  exact Run.settles_pure trivial

end Running

end Stencil
