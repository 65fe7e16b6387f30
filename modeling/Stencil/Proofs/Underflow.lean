import Stencil.Proofs.Actions
import Stencil.Proofs.Heights

set_option autoImplicit false

/-
Running out of values. Whether an instruction finds on the stack what it takes off it can be read off
the instructions before it: the heights decide it, whatever the variables are and whatever filters
and blocks do. Instructions that are high enough everywhere fail only where something they call
fails, and the others come no further than to the first that is not.
-/

namespace Stencil

/-- What an instruction calls fails with the error: a filter, once it was given what it takes off the
stack, or a block, or `super`. -/
inductive Op.CallFails (setting : Setting) (calls : Calls) (scope : Scope) (machine : Machine)
    (state : State) (error : Error) (after : State) : Op → Prop
  | filter {name : String} {count : Nat} {args : List Value} {value : Value} {below rest : Machine}
      (arguments : machine.popMany count = .ok (args, below)) (subject : below.pop = .ok (value, rest))
      (fails : setting.applyFilter name value args state = some (.error error, after)) :
      CallFails setting calls scope machine state error after (.filter name count)
  | block {name : String} (fails : scope.renderBlock calls name state = some (.error error, after)) :
      CallFails setting calls scope machine state error after (.block name)
  | super (fails : scope.renderSuper calls state = some (.error error, after)) :
      CallFails setting calls scope machine state error after .super

/-- The instruction at a place is reached, and what it calls fails with the error. -/
def Code.CallFailsAt (setting : Setting) (calls : Calls) (scope : Scope) (code : Code) (place : Nat)
    (state : State) (error : Error) (after : State) : Prop :=
  ∃ op machine middle, code[place]? = some op ∧
    Code.runFrom setting calls scope .initial (code.take place) state = some (.ok machine, middle) ∧
    op.CallFails setting calls scope machine middle error after

/-- The instructions always find what they take off the stack. -/
structure Code.NeverShort (setting : Setting) (calls : Calls) (scope : Scope) (code : Code) : Prop where
  /-- Wherever they have come to, as many values stand on the stack as the height says. -/
  held : ∀ place state machine after,
    Code.runFrom setting calls scope .initial (code.take place) state = some (.ok machine, after) →
      Code.height 0 (code.take place) = some machine.stack.length
  /-- What they fail with is the error of something that they call. -/
  failed : ∀ state error after,
    Code.run setting calls scope code state = some (.error error, after) →
      ∃ place, code.CallFailsAt setting calls scope place state error after

/-- The instructions come no further than to the place, where one does not find what it takes off
the stack. -/
structure Code.ShortAt (setting : Setting) (calls : Calls) (scope : Scope) (code : Code)
    (place : Nat) : Prop where
  /-- Those before the place run. Then it is over, and nothing is called any more. -/
  stops : Code.run setting calls scope code =
    Code.runFrom setting calls scope .initial (code.take place) >>= fun _ => .fail .stackUnderflow
  /-- So they fail, with the error of something that is called before the place, or else there, in
  the state which the instructions before it have left. -/
  failed : ∀ state result after, Code.run setting calls scope code state = some (result, after) →
    (∃ earlier error, earlier < place ∧ result = .error error ∧
      code.CallFailsAt setting calls scope earlier state error after) ∨
    (result = .error .stackUnderflow ∧ ∃ machine,
      Code.runFrom setting calls scope .initial (code.take place) state = some (.ok machine, after) ∧
      Code.height 0 (code.take place) = some machine.stack.length)

/-! ### One instruction -/

theorem Run.bind_cases {α β : Type} {run : Run α} {next : α → Run β} {state after : State}
    {result : Except Error β} (ended : (run >>= next) state = some (result, after)) :
    (∃ error, result = .error error ∧ run state = some (.error error, after)) ∨
      ∃ value middle, run state = some (.ok value, middle) ∧
        next value middle = some (result, after) := by
  cases reached : run state with
  | none =>
      rw [Run.bind_of_none next reached] at ended
      cases ended
  | some outcome =>
      obtain ⟨first, middle⟩ := outcome
      cases first with
      | error error =>
          rw [Run.bind_of_error next reached] at ended
          cases ended
          exact Or.inl ⟨error, rfl, rfl⟩
      | ok value =>
          rw [Run.bind_of_ok next reached] at ended
          exact Or.inr ⟨value, middle, rfl, ended⟩

/-- What follows a run matters only for the values that the run ends with. -/
theorem Run.bind_congr {α β : Type} {run : Run α} {next after : α → Run β} {state : State}
    (same : ∀ value middle, run state = some (.ok value, middle) →
      next value middle = after value middle) : (run >>= next) state = (run >>= after) state := by
  cases reached : run state with
  | none => rw [Run.bind_of_none next reached, Run.bind_of_none after reached]
  | some outcome =>
      obtain ⟨result, middle⟩ := outcome
      cases result with
      | error error => rw [Run.bind_of_error next reached, Run.bind_of_error after reached]
      | ok value =>
          rw [Run.bind_of_ok next reached, Run.bind_of_ok after reached]
          exact same value middle reached

theorem Op.height_filter_eq_some {before count height : Nat} {name : String} :
    Op.height before (.filter name count) = some height ↔ count < before ∧ before - count = height := by
  rw [Op.height, Option.ite_none_right_eq_some, Option.some_inj]

theorem Op.height_filter_eq_none {before count : Nat} {name : String} :
    Op.height before (.filter name count) = none ↔ before ≤ count := by
  by_cases enough : count < before
  · rw [Op.height, if_pos enough]
    exact iff_of_false (Option.some_ne_none _) (Nat.not_le.2 enough)
  · rw [Op.height, if_neg enough]
    exact iff_of_true rfl (Nat.not_lt.1 enough)

theorem Machine.popMany_of_ge (machine : Machine) {count : Nat} (few : machine.stack.length ≤ count) :
    machine.popMany count = .error .stackUnderflow ∨
      ∃ args below, machine.popMany count = .ok (args, below) ∧ below.pop = .error .stackUnderflow := by
  by_cases deep : machine.stack.length < count
  · left
    rw [popMany, if_pos deep]
  · right
    have nothing : machine.stack.drop count = [] := List.drop_eq_nil_of_le few
    refine ⟨(machine.stack.take count).reverse, { machine with stack := [] }, ?_, rfl⟩
    rw [popMany, if_neg deep, nothing]

section Op

variable {setting : Setting} {calls : Calls} {scope : Scope} {machine : Machine} {op : Op}

/-- An instruction without enough values calls nothing. -/
theorem Op.run_of_short (short : op.height machine.stack.length = none) :
    op.run setting calls scope machine = .fail .stackUnderflow := by
  cases op with
  | text | lookup | const | block | super => cases short
  | filter name count =>
      have few := Op.height_filter_eq_none.1 short
      rcases machine.popMany_of_ge few with underflow | ⟨args, below, popped, underflow⟩
      · simp only [Op.run, underflow]
        rfl
      · simp only [Op.run, popped]
        change Run.ofExcept below.pop >>= _ = _
        rw [underflow]
        rfl
  | emit =>
      obtain ⟨stack, output⟩ := machine
      cases stack with
      | nil => rfl
      | cons value rest => cases short

/-- An instruction with enough values leaves the height that it should, or something that it calls
fails. -/
theorem Op.run_of_height {height : Nat} (fits : op.height machine.stack.length = some height)
    {state after : State} {result : Except Error Machine}
    (ended : op.run setting calls scope machine state = some (result, after)) :
    (∃ further, result = .ok further ∧ further.stack.length = height) ∨
      ∃ error, result = .error error ∧
        op.CallFails setting calls scope machine state error after := by
  cases op with
  | text | lookup | const =>
      cases fits
      cases ended
      exact Or.inl ⟨_, rfl, rfl⟩
  | filter name count =>
      obtain ⟨enough, rfl⟩ := Op.height_filter_eq_some.1 fits
      obtain ⟨args, value, rest, popped, left⟩ := machine.popMany_of_lt enough
      simp only [Op.run, popped] at ended
      change (setting.applyFilter name value args >>= _) state = _ at ended
      rcases Run.bind_cases ended with ⟨error, rfl, fails⟩ | ⟨answer, middle, -, ended⟩
      · exact Or.inr ⟨error, rfl, .filter popped rfl fails⟩
      · cases ended
        exact Or.inl ⟨_, rfl, left⟩
  | emit =>
      obtain ⟨stack, output⟩ := machine
      cases stack with
      | nil => cases fits
      | cons value rest =>
          cases fits
          cases ended
          exact Or.inl ⟨_, rfl, rfl⟩
  | block name =>
      rcases Run.bind_cases ended with ⟨error, rfl, fails⟩ | ⟨output, middle, -, ended⟩
      · exact Or.inr ⟨error, rfl, .block fails⟩
      · cases fits
        cases ended
        exact Or.inl ⟨_, rfl, rfl⟩
  | super =>
      rcases Run.bind_cases ended with ⟨error, rfl, fails⟩ | ⟨output, middle, -, ended⟩
      · exact Or.inr ⟨error, rfl, .super fails⟩
      · cases fits
        cases ended
        exact Or.inl ⟨_, rfl, rfl⟩

/-- The height behind an instruction that has run is the one that it should leave. -/
theorem Op.height_of_run {further : Machine} {state after : State}
    (ended : op.run setting calls scope machine state = some (.ok further, after)) :
    op.height machine.stack.length = some further.stack.length := by
  cases fits : op.height machine.stack.length with
  | none =>
      rw [Op.run_of_short fits] at ended
      cases ended
  | some height =>
      rcases Op.run_of_height fits ended with ⟨_, same, held⟩ | ⟨error, impossible, -⟩
      · cases same
        rw [held]
      · cases impossible

end Op

/-! ### Instructions one after the other -/

section Code

variable {setting : Setting} {calls : Calls} {scope : Scope} {machine : Machine} {code : Code}
variable {state after : State}

theorem Code.height_of_runFrom {further : Machine}
    (ended : Code.runFrom setting calls scope machine code state = some (.ok further, after)) :
    Code.height machine.stack.length code = some further.stack.length := by
  induction code generalizing machine state with
  | nil =>
      cases ended
      rfl
  | cons op rest ih =>
      rcases Run.bind_cases ended with ⟨error, impossible, -⟩ | ⟨middle, between, first, ended⟩
      · cases impossible
      · rw [Code.height_cons, Op.height_of_run first]
        exact ih ended

/-- Instructions that fail do so at some place. -/
theorem Code.fails_at {error : Error}
    (ended : Code.runFrom setting calls scope machine code state = some (.error error, after)) :
    ∃ place op further middle, code[place]? = some op ∧
      Code.runFrom setting calls scope machine (code.take place) state = some (.ok further, middle) ∧
      op.run setting calls scope further middle = some (.error error, after) := by
  induction code generalizing machine state with
  | nil => cases ended
  | cons op rest ih =>
      rcases Run.bind_cases ended with ⟨_, same, fails⟩ | ⟨further, between, first, ended⟩
      · cases same
        exact ⟨0, op, machine, state, rfl, rfl, fails⟩
      · obtain ⟨place, other, last, middle, stands, reached, fails⟩ := ih ended
        exact ⟨place + 1, other, last, middle, stands, (Run.bind_of_ok _ first).trans reached, fails⟩

/-- The height behind instructions, when one of them is looked at on the way. -/
theorem Code.height_of_getElem? {place : Nat} {op : Op} (stands : code[place]? = some op)
    (before : Nat) :
    Code.height before code =
      (Code.height before (code.take place)).bind fun height =>
        (op.height height).bind fun next => Code.height next (code.drop (place + 1)) := by
  obtain ⟨inside, same⟩ := List.getElem?_eq_some_iff.1 stands
  have behind : code.drop place = op :: code.drop (place + 1) := by
    rw [List.drop_eq_getElem_cons inside, same]
  calc Code.height before code
      = Code.height before (code.take place ++ code.drop place) := by rw [List.take_append_drop]
    _ = _ := by
        rw [Code.height_append, behind]
        rfl

/-- Where the heights do not go on, there is an instruction that is not high enough, the first. -/
theorem Code.short_of_height_none {before : Nat} (short : Code.height before code = none) :
    ∃ place op height, code[place]? = some op ∧
      Code.height before (code.take place) = some height ∧ op.height height = none := by
  induction code generalizing before with
  | nil => cases short
  | cons op rest ih =>
      rw [Code.height_cons] at short
      cases fits : op.height before with
      | none => exact ⟨0, op, before, rfl, rfl, fits⟩
      | some next =>
          rw [fits] at short
          obtain ⟨place, other, height, stands, reached, fails⟩ := ih short
          refine ⟨place + 1, other, height, stands, ?_, fails⟩
          rw [List.take_succ_cons, Code.height_cons, fits]
          exact reached

end Code

section Short

variable (setting : Setting) (calls : Calls) (scope : Scope) {code : Code}

/-- When the heights go on to the end, a failure is that of a call. -/
theorem Code.callFailsAt_of_height {final : Nat} (fits : Code.height 0 code = some final)
    {state after : State} {error : Error}
    (ended : Code.runFrom setting calls scope .initial code state = some (.error error, after)) :
    ∃ place, code.CallFailsAt setting calls scope place state error after := by
  obtain ⟨place, op, machine, middle, stands, reached, fails⟩ := Code.fails_at ended
  have held : Code.height 0 (code.take place) = some machine.stack.length :=
    Code.height_of_runFrom reached
  rw [Code.height_of_getElem? stands, held, Option.bind_some] at fits
  obtain ⟨next, enough, -⟩ := Option.bind_eq_some_iff.1 fits
  rcases Op.run_of_height enough fails with ⟨_, impossible, -⟩ | ⟨_, same, fails⟩
  · cases impossible
  · cases same
    exact ⟨place, op, machine, middle, stands, reached, fails⟩

theorem Code.CallFailsAt.of_take {setting : Setting} {calls : Calls} {scope : Scope}
    {place earlier : Nat} {state after : State} {error : Error}
    (fails : Code.CallFailsAt setting calls scope (code.take place) earlier state error after) :
    earlier < place ∧ code.CallFailsAt setting calls scope earlier state error after := by
  obtain ⟨op, machine, middle, stands, reached, fails⟩ := fails
  have before : earlier < place := by
    have inside := (List.getElem?_eq_some_iff.1 stands).1
    rw [List.length_take] at inside
    omega
  rw [List.getElem?_take_of_lt before] at stands
  rw [List.take_take, Nat.min_eq_left (Nat.le_of_lt before)] at reached
  exact ⟨before, op, machine, middle, stands, reached, fails⟩

theorem Code.neverShort_of_height {final : Nat} (fits : Code.height 0 code = some final) :
    code.NeverShort setting calls scope where
  held := fun _ _ _ _ reached => Code.height_of_runFrom reached
  failed := by
    intro state error after ended
    rcases Run.bind_cases ended with ⟨_, same, fails⟩ | ⟨machine, middle, -, impossible⟩
    · cases same
      exact Code.callFailsAt_of_height setting calls scope fits fails
    · cases impossible

theorem Code.run_of_short {place height : Nat} {op : Op} (stands : code[place]? = some op)
    (held : Code.height 0 (code.take place) = some height) (short : op.height height = none) :
    Code.run setting calls scope code =
      Code.runFrom setting calls scope .initial (code.take place) >>=
        fun _ => .fail .stackUnderflow := by
  obtain ⟨inside, same⟩ := List.getElem?_eq_some_iff.1 stands
  have split : code = code.take place ++ op :: code.drop (place + 1) := by
    rw [← same, ← List.drop_eq_getElem_cons inside, List.take_append_drop]
  have runs : Code.run setting calls scope code =
      Code.runFrom setting calls scope .initial (code.take place) >>= fun machine =>
        Code.runFrom setting calls scope machine (op :: code.drop (place + 1)) >>= fun machine =>
          return machine.output := by
    conv_lhs => rw [Code.run, split, Code.runFrom_append]
    exact bind_assoc _ _ _
  rw [runs]
  funext state
  apply Run.bind_congr
  intro machine middle reached
  have here : some height = some machine.stack.length :=
    held.symm.trans (Code.height_of_runFrom reached)
  cases here
  rw [Code.runFrom, Op.run_of_short short]
  rfl

theorem Code.shortAt_of_height {place height : Nat} {op : Op} (stands : code[place]? = some op)
    (held : Code.height 0 (code.take place) = some height) (short : op.height height = none) :
    code.ShortAt setting calls scope place := by
  have stops := Code.run_of_short setting calls scope stands held short
  refine ⟨stops, ?_⟩
  intro state result after ended
  rw [stops] at ended
  rcases Run.bind_cases ended with ⟨error, rfl, fails⟩ | ⟨machine, middle, reached, ended⟩
  · obtain ⟨earlier, fails⟩ := Code.callFailsAt_of_height setting calls scope held fails
    obtain ⟨before, fails⟩ := fails.of_take
    exact Or.inl ⟨earlier, error, before, rfl, fails⟩
  · cases ended
    exact Or.inr ⟨rfl, machine, reached, Code.height_of_runFrom reached⟩

end Short

/-- The heights decide whether instructions run out of values, in every environment and in every
scope. If each instruction is high enough, then none fails for want of values, and before each of
them the stack has its height. If one is not, the first of these is where the instructions end, at
the latest: they put nothing out, and neither it nor anything behind it calls a filter, a block or
`super`. -/
theorem heights_decide_underflow (setting : Setting) (calls : Calls) (scope : Scope) (code : Code) :
    (∀ final, Code.height 0 code = some final → code.NeverShort setting calls scope) ∧
    (∀ place op height, code[place]? = some op → Code.height 0 (code.take place) = some height →
      op.height height = none → code.ShortAt setting calls scope place) ∧
    (Code.height 0 code = none → ∃ place op height, code[place]? = some op ∧
      Code.height 0 (code.take place) = some height ∧ op.height height = none) := by
  refine ⟨?_, ?_, Code.short_of_height_none⟩
  · intro final fits
    exact Code.neverShort_of_height setting calls scope fits
  · intro place op height stands held short
    exact Code.shortAt_of_height setting calls scope stands held short

/-- Two values are enough for a filter with one argument, and one is not enough for a filter with as
many as there can be. The second list has put the block out when it ends, and calls no filter. -/
theorem heights_decide_underflow_gather :
    let gather : Filter := ⟨fun value args => .ok (.array (value :: args))⟩
    let setting : Setting := ⟨⟨[], none, Dict.ofList [("gather", gather)], .assumeStale⟩, .empty⟩
    let calls := setting.calls 1
    let body : Procedure := ⟨0, .code [.text "body"]⟩
    let scope : Scope := .outside ⟨none, ∅, Dict.ofList [("body", [body])]⟩
    let enough : Code := [.lookup "x", .const .null, .filter "gather" 1, .emit]
    let few : Code := [.block "body", .const .null, .filter "gather" 18446744073709551615, .super]
    Code.height 0 enough = some 0 ∧ enough.NeverShort setting calls scope ∧
    few[2]? = some (.filter "gather" 18446744073709551615) ∧ Code.height 0 (few.take 2) = some 1 ∧
    Op.height 1 (.filter "gather" 18446744073709551615) = none ∧ few.ShortAt setting calls scope 2 ∧
    (Code.run setting calls scope few .initial).map (fun outcome => (outcome.1, outcome.2.events)) =
      some (.error .stackUnderflow, []) := by
  intro gather setting calls body scope enough few
  have fits : Code.height 0 enough = some 0 := by decide
  have held : Code.height 0 (few.take 2) = some 1 := by decide
  have short : Op.height 1 (.filter "gather" 18446744073709551615) = none := by decide
  obtain ⟨never, stops, -⟩ := heights_decide_underflow setting calls scope enough
  obtain ⟨-, alsoStops, -⟩ := heights_decide_underflow setting calls scope few
  exact ⟨fits, never 0 fits, rfl, held, short, alsoStops 2 _ 1 rfl held short, rfl⟩

end Stencil
