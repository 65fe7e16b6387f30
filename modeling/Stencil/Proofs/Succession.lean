import Stencil.Proofs.Underflow

set_option autoImplicit false

namespace Stencil

/-- A machine on top of another one: its values lie above, and its output stands behind. -/
def Machine.upon (machine base : Machine) : Machine :=
  ⟨machine.stack ++ base.stack, base.output ++ machine.output⟩

/-- Instructions that, from an empty stack on, never need more values than they have pushed. -/
def Code.SelfContained (code : Code) : Prop := ∃ height, Code.height 0 code = some height

theorem Machine.upon_initial (base : Machine) : Machine.initial.upon base = base := by
  change Machine.mk base.stack (base.output ++ "") = base
  rw [String.append_empty]

theorem Machine.write_upon (machine base : Machine) (text : String) :
    (machine.upon base).write text = (machine.write text).upon base :=
  congrArg (Machine.mk (machine.stack ++ base.stack)) String.append_assoc

theorem Machine.emit_upon (machine base : Machine) (value : Value) :
    (machine.upon base).emit value = (machine.emit value).upon base := by
  rw [emit_eq, emit_eq, write_upon]

/-- The arguments of a filter lie in the upper part of the stack, when there are enough of them. -/
theorem Machine.popMany_upon {machine rest : Machine} {count : Nat} {args : List Value}
    (popped : machine.popMany count = .ok (args, rest)) (base : Machine) :
    (machine.upon base).popMany count = .ok (args, rest.upon base) := by
  by_cases few : machine.stack.length < count
  · rw [popMany, if_pos few] at popped
    cases popped
  · have enough : count ≤ machine.stack.length := by omega
    have alsoEnough : ¬ (machine.upon base).stack.length < count := by
      change ¬ (machine.stack ++ base.stack).length < count
      rw [List.length_append]
      omega
    rw [popMany, if_neg few] at popped
    cases popped
    rw [popMany, if_neg alsoEnough]
    change Except.ok (((machine.stack ++ base.stack).take count).reverse,
      Machine.mk ((machine.stack ++ base.stack).drop count) _) = _
    rw [List.take_append_of_le_length enough, List.drop_append_of_le_length enough]
    rfl

section Upon

variable {setting : Setting} {calls : Calls} {scope : Scope}

/-- An instruction with enough values does not notice what its machine stands on. -/
theorem Op.run_upon {machine : Machine} {op : Op} {height : Nat}
    (fits : op.height machine.stack.length = some height) (base : Machine) :
    op.run setting calls scope (machine.upon base) =
      op.run setting calls scope machine >>= fun further => return further.upon base := by
  cases op with
  | text s => exact congrArg Run.pure (machine.write_upon base s)
  | lookup | const => rfl
  | filter name count =>
      have enough := (Op.height_filter_eq_some.1 fits).1
      obtain ⟨args, value, rest, popped, -⟩ := machine.popMany_of_lt enough
      simp only [Op.run, popped, Machine.popMany_upon popped base]
      change (setting.applyFilter name value args >>= _) =
        (setting.applyFilter name value args >>= _) >>= _
      rw [bind_assoc]
      rfl
  | emit =>
      obtain ⟨stack, output⟩ := machine
      cases stack with
      | nil => cases fits
      | cons value rest => exact congrArg Run.pure (Machine.emit_upon ⟨rest, output⟩ base value)
  | block name =>
      change (scope.renderBlock calls name >>= _) = (scope.renderBlock calls name >>= _) >>= _
      rw [bind_assoc]
      refine congrArg (scope.renderBlock calls name >>= ·) (funext fun output => ?_)
      exact congrArg Run.pure (machine.write_upon base output)
  | super =>
      change (scope.renderSuper calls >>= _) = (scope.renderSuper calls >>= _) >>= _
      rw [bind_assoc]
      refine congrArg (scope.renderSuper calls >>= ·) (funext fun output => ?_)
      exact congrArg Run.pure (machine.write_upon base output)

theorem Code.runFrom_upon {machine : Machine} {code : Code} {height : Nat}
    (fits : Code.height machine.stack.length code = some height) (base : Machine) :
    Code.runFrom setting calls scope (machine.upon base) code =
      Code.runFrom setting calls scope machine code >>= fun further => return further.upon base := by
  induction code generalizing machine with
  | nil => rfl
  | cons op rest ih =>
      rw [Code.height_cons] at fits
      obtain ⟨next, first, fits⟩ := Option.bind_eq_some_iff.1 fits
      change (op.run setting calls scope (machine.upon base) >>= _) =
        (op.run setting calls scope machine >>= _) >>= _
      rw [Op.run_upon first, bind_assoc, bind_assoc]
      funext state
      apply Run.bind_congr
      intro further middle reached
      have held := Op.height_of_run reached
      rw [first] at held
      cases held
      exact congrFun (ih fits) middle

end Upon

/-- Instructions that take nothing off the stack but what they have put there can be put behind any
others. The two do together what they do one after the other: the first to fail decides, and if
neither fails, the outputs stand one behind the other. Whatever was left on the stack still lies
there, and had no influence. -/
theorem run_append_of_selfContained (setting : Setting) (calls : Calls) (scope : Scope)
    (first : Code) {second : Code} (contained : second.SelfContained) :
    (Code.run setting calls scope (first ++ second) = do
      let before ← Code.run setting calls scope first
      let after ← Code.run setting calls scope second
      return before ++ after) ∧
    ∀ base, Code.runFrom setting calls scope base second = do
      let further ← Code.runFrom setting calls scope .initial second
      return further.upon base := by
  obtain ⟨height, fits⟩ := contained
  have alone : ∀ base, Code.runFrom setting calls scope base second = do
      let further ← Code.runFrom setting calls scope .initial second
      return further.upon base := by
    intro base
    have enough : Code.height Machine.initial.stack.length second = some height := fits
    calc Code.runFrom setting calls scope base second
      _ = Code.runFrom setting calls scope (Machine.initial.upon base) second := by
        rw [Machine.upon_initial]
      _ = _ := Code.runFrom_upon enough base
  refine ⟨?_, alone⟩
  unfold Code.run
  rw [Code.runFrom_append, bind_assoc, bind_assoc]
  refine congrArg (Code.runFrom setting calls scope .initial first >>= ·) (funext fun machine => ?_)
  rw [alone machine, bind_assoc]
  change _ = (_ >>= _) >>= _
  rw [bind_assoc]
  rfl

/-- The first list leaves two values on the stack, and the filter of the second gets neither. -/
theorem run_append_of_selfContained_leftover :
    let gather : Filter := ⟨fun value args => .ok (.array (value :: args))⟩
    let setting : Setting := ⟨⟨[], none, Dict.ofList [("gather", gather)], .assumeStale⟩, .empty⟩
    let calls := setting.calls 1
    let scope : Scope := .outside ⟨none, Dict.ofList [("x", .string "left")], ∅⟩
    let first : Code := [.text "<", .lookup "x", .const (.bool true)]
    let second : Code := [.const (.string "y"), .const .null, .filter "gather" 1, .emit, .text ">"]
    second.SelfContained ∧
    (Code.run setting calls scope (first ++ second) = do
      let before ← Code.run setting calls scope first
      let after ← Code.run setting calls scope second
      return before ++ after) ∧
    (Code.run setting calls scope (first ++ second) .initial).map (·.1) =
      some (.ok "<[\x22y\x22,null]>") := by
  intro gather setting calls scope first second
  have contained : second.SelfContained := ⟨0, by decide⟩
  obtain ⟨together, -⟩ := run_append_of_selfContained setting calls scope first contained
  exact ⟨contained, together, rfl⟩

end Stencil
