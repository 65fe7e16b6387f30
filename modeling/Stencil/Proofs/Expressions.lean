import Stencil.Proofs.Actions
import Stencil.Proofs.Lookup

set_option autoImplicit false

namespace Stencil

/-- A variable, a value, or what a filter makes of the value of an expression, with the values of
others as its arguments. -/
inductive Expression where
  | lookup (name : String)
  | const (value : Value)
  | filter (name : String) (subject : Expression) (args : List Expression)

def Filters.apply (filters : Filters) (name : String) (value : Value) (args : List Value) :
    Except Error Value :=
  match filters.get? name with
  | none => .error (.unknownFilter name)
  | some filter => filter.apply value args

section Filters

variable {filters : Filters} {setting : Setting} {name : String}

theorem Filters.apply_of_unknown (unknown : filters.get? name = none) (value : Value)
    (args : List Value) : Filters.apply filters name value args = .error (.unknownFilter name) := by
  unfold Filters.apply
  rw [unknown]

theorem Filters.apply_of_known {filter : Filter} (known : filters.get? name = some filter)
    (value : Value) (args : List Value) :
    Filters.apply filters name value args = filter.apply value args := by
  unfold Filters.apply
  rw [known]

theorem Setting.applyFilter_of_unknown (unknown : setting.environment.filters.get? name = none)
    (value : Value) (args : List Value) :
    setting.applyFilter name value args = .fail (.unknownFilter name) := by
  unfold Setting.applyFilter
  rw [unknown]

theorem Setting.applyFilter_of_known {filter : Filter}
    (known : setting.environment.filters.get? name = some filter) (value : Value)
    (args : List Value) (state : State) :
    setting.applyFilter name value args state =
      some (filter.apply value args, state.log [.filter name value args]) := by
  unfold Setting.applyFilter
  rw [known]
  rfl

end Filters

namespace Expression

mutual

def code : Expression → Code
  | .lookup name => [.lookup name]
  | .const value => [.const value]
  | .filter name subject args => subject.code ++ codes args ++ [.filter name args.length]

def codes : List Expression → Code
  | [] => []
  | arg :: rest => arg.code ++ codes rest

end

mutual

def eval (filters : Filters) (context : Context) : Expression → Except Error Value
  | .lookup name => .ok (context.lookup name)
  | .const value => .ok value
  | .filter name subject args => do
    let value ← subject.eval filters context
    let values ← evalAll filters context args
    Filters.apply filters name value values

def evalAll (filters : Filters) (context : Context) : List Expression → Except Error (List Value)
  | [] => .ok []
  | arg :: rest => do
    let value ← arg.eval filters context
    let values ← evalAll filters context rest
    return value :: values

end

mutual

/-- The filters in an expression, each with its parts: the inner ones first, and of two that are not
inside each other the left one first. -/
def nodes : Expression → List Expression
  | .lookup _ | .const _ => []
  | .filter name subject args => subject.nodes ++ nodesOfAll args ++ [.filter name subject args]

/-- The filters in expressions, from the first on. -/
def nodesOfAll : List Expression → List Expression
  | [] => []
  | arg :: rest => arg.nodes ++ nodesOfAll rest

end

/-- Filters are applied one after the other, each to the values of its parts, up to the first that
fails or is not known: with this outcome, and with these calls. -/
inductive Applied (filters : Filters) (context : Context) :
    List Expression → Except Error Unit → List Event → Prop
  | done : Applied filters context [] (.ok ()) []
  | next {name : String} {subject : Expression} {args : List Expression} {value result : Value}
      {values : List Value} {filter : Filter} {rest : List Expression} {outcome : Except Error Unit}
      {made : List Event} (given : subject.eval filters context = .ok value)
      (andGiven : evalAll filters context args = .ok values)
      (known : filters.get? name = some filter) (applied : filter.apply value values = .ok result)
      (later : Applied filters context rest outcome made) :
      Applied filters context (.filter name subject args :: rest) outcome
        (.filter name value values :: made)
  | failed {name : String} {subject : Expression} {args : List Expression} {value : Value}
      {values : List Value} {filter : Filter} {error : Error} (rest : List Expression)
      (given : subject.eval filters context = .ok value)
      (andGiven : evalAll filters context args = .ok values)
      (known : filters.get? name = some filter) (fails : filter.apply value values = .error error) :
      Applied filters context (.filter name subject args :: rest) (.error error)
        [.filter name value values]
  | unknown {name : String} {subject : Expression} {args : List Expression} {value : Value}
      {values : List Value} (rest : List Expression)
      (given : subject.eval filters context = .ok value)
      (andGiven : evalAll filters context args = .ok values)
      (unknown : filters.get? name = none) :
      Applied filters context (.filter name subject args :: rest) (.error (.unknownFilter name)) []

section Applied

variable {filters : Filters} {context : Context} {first second : List Expression}
variable {made more : List Event}

theorem Applied.append {outcome : Except Error Unit}
    (early : Applied filters context first (.ok ()) made)
    (late : Applied filters context second outcome more) :
    Applied filters context (first ++ second) outcome (made ++ more) := by
  generalize passed : Except.ok () = reached at early
  induction early with
  | done => exact late
  | next given andGiven known applied _ ih => exact .next given andGiven known applied (ih passed)
  | failed => cases passed
  | unknown => cases passed

/-- Filters behind one that fails are not applied. -/
theorem Applied.append_of_error {error : Error}
    (early : Applied filters context first (.error error) made) (second : List Expression) :
    Applied filters context (first ++ second) (.error error) made := by
  generalize stopped : Except.error error = reached at early
  induction early with
  | done => cases stopped
  | next given andGiven known applied _ ih => exact .next given andGiven known applied (ih stopped)
  | failed rest given andGiven known fails =>
      cases stopped
      exact .failed (rest ++ second) given andGiven known fails
  | unknown rest given andGiven unknown =>
      cases stopped
      exact .unknown (rest ++ second) given andGiven unknown

end Applied

theorem length_of_evalAll {filters : Filters} {context : Context} {args : List Expression}
    {values : List Value} (evaluated : evalAll filters context args = .ok values) :
    values.length = args.length := by
  induction args generalizing values with
  | nil =>
      cases evaluated
      rfl
  | cons arg rest ih =>
      rw [evalAll] at evaluated
      cases first : arg.eval filters context with
      | error error =>
          rw [first] at evaluated
          cases evaluated
      | ok value =>
          cases later : evalAll filters context rest with
          | error error =>
              rw [first, later] at evaluated
              cases evaluated
          | ok others =>
              rw [first, later] at evaluated
              cases evaluated
              exact congrArg (· + 1) (ih later)

/-- Wherever they start, the instructions push the values of the result and change nothing else, or
fail with its error. The calls that they make on the way are those of the filters. -/
def Realized (setting : Setting) (scope : Scope) (nodes : List Expression) (code : Code)
    (result : Except Error (List Value)) : Prop :=
  ∃ made, Applied setting.environment.filters scope.context nodes (result.map fun _ => ()) made ∧
    ∀ calls stack output state, Code.runFrom setting calls scope ⟨stack, output⟩ code state =
      some (result.map fun values => ⟨values.reverse ++ stack, output⟩, state.log made)

section Realized

variable {setting : Setting} {scope : Scope} {nodes others : List Expression} {code behind : Code}

theorem realized_nil : Realized setting scope [] [] (.ok []) := ⟨[], .done, fun _ _ _ _ => rfl⟩

theorem realized_lookup (name : String) :
    Realized setting scope [] [.lookup name] (.ok [scope.context.lookup name]) :=
  ⟨[], .done, fun _ _ _ _ => rfl⟩

theorem realized_const (value : Value) : Realized setting scope [] [.const value] (.ok [value]) :=
  ⟨[], .done, fun _ _ _ _ => rfl⟩

theorem Realized.append_of_error {error : Error}
    (fails : Realized setting scope nodes code (.error error)) (others : List Expression)
    (behind : Code) : Realized setting scope (nodes ++ others) (code ++ behind) (.error error) := by
  obtain ⟨made, applied, runs⟩ := fails
  refine ⟨made, applied.append_of_error others, ?_⟩
  intro calls stack output state
  rw [Code.runFrom_append, Run.bind_of_error _ (runs calls stack output state)]
  rfl

/-- Values that are pushed later lie above those that are pushed earlier. -/
theorem Realized.append {result more : Except Error (List Value)}
    (first : Realized setting scope nodes code result)
    (second : Realized setting scope others behind more) :
    Realized setting scope (nodes ++ others) (code ++ behind) (do
      let values ← result
      let further ← more
      return values ++ further) := by
  cases result with
  | error error => exact first.append_of_error others behind
  | ok values =>
      obtain ⟨made, applied, runs⟩ := first
      obtain ⟨after, alsoApplied, alsoRuns⟩ := second
      refine ⟨made ++ after, ?_, ?_⟩
      · cases more with
        | error error => exact applied.append alsoApplied
        | ok further => exact applied.append alsoApplied
      · intro calls stack output state
        rw [Code.runFrom_append, Run.bind_of_ok _ (runs calls stack output state), alsoRuns,
          State.log_log]
        cases more with
        | error error => rfl
        | ok further =>
            change some (Except.ok (Machine.mk (further.reverse ++ (values.reverse ++ stack)) output),
              _) = some (Except.ok (Machine.mk ((values ++ further).reverse ++ stack) output), _)
            rw [List.reverse_append, List.append_assoc]

/-- A filter takes a value and arguments, which were pushed in this order, and pushes its result. -/
theorem Realized.runFrom_filter {made : List Event} {value : Value} {values : List Value}
    (runs : ∀ calls stack output state, Code.runFrom setting calls scope ⟨stack, output⟩ code state =
      some (.ok ⟨(value :: values).reverse ++ stack, output⟩, state.log made)) (name : String)
    (calls : Calls) (stack : List Value) (output : String) (state : State) :
    Code.runFrom setting calls scope ⟨stack, output⟩ (code ++ [.filter name values.length]) state =
      (setting.applyFilter name value values >>= fun result => return ⟨result :: stack, output⟩)
        (state.log made) := by
  rw [Code.runFrom_append, Run.bind_of_ok _ (runs calls stack output state), List.reverse_cons,
    List.append_assoc]
  change ((Op.filter name values.length).run setting calls scope
    ⟨values.reverse ++ value :: stack, output⟩ >>= Run.pure) _ = _
  rw [Op.run_filter]
  exact congrFun (bind_pure _) _

/-- The filter of an expression is applied behind those of its parts, to the values of these. -/
theorem Realized.filter {name : String} {subject : Expression} {args : List Expression}
    {value : Value} {values : List Value}
    (given : subject.eval setting.environment.filters scope.context = .ok value)
    (andGiven : evalAll setting.environment.filters scope.context args = .ok values)
    (parts : Realized setting scope nodes code (.ok (value :: values))) :
    Realized setting scope (nodes ++ [.filter name subject args]) (code ++ [.filter name args.length])
      ((Filters.apply setting.environment.filters name value values).map ([·])) := by
  obtain ⟨made, applied, runs⟩ := parts
  rw [← length_of_evalAll andGiven]
  cases known : setting.environment.filters.get? name with
  | none =>
      rw [Filters.apply_of_unknown known]
      refine ⟨_, applied.append (.unknown [] given andGiven known), ?_⟩
      intro calls stack output state
      rw [runFrom_filter runs, Setting.applyFilter_of_unknown known, List.append_nil]
      rfl
  | some filter =>
      rw [Filters.apply_of_known known]
      have answers := fun state : State =>
        Setting.applyFilter_of_known known value values (state.log made)
      simp only [State.log_log] at answers
      cases answered : filter.apply value values with
      | error error =>
          refine ⟨_, applied.append (.failed [] given andGiven known answered), ?_⟩
          intro calls stack output state
          rw [runFrom_filter runs]
          rw [answered] at answers
          exact Run.bind_of_error _ (answers state)
      | ok result =>
          refine ⟨_, applied.append (.next given andGiven known answered .done), ?_⟩
          intro calls stack output state
          rw [runFrom_filter runs]
          rw [answered] at answers
          exact Run.bind_of_ok _ (answers state)

end Realized

mutual

theorem realized_code (setting : Setting) (scope : Scope) (expression : Expression) :
    Realized setting scope expression.nodes expression.code
      ((expression.eval setting.environment.filters scope.context).map ([·])) := by
  match expression with
  | .lookup name => exact realized_lookup name
  | .const value => exact realized_const value
  | .filter name subject args =>
      have parts := (realized_code setting scope subject).append (realized_codes setting scope args)
      rw [eval, nodes, code]
      cases given : subject.eval setting.environment.filters scope.context with
      | error error =>
          rw [given] at parts
          exact parts.append_of_error _ _
      | ok value =>
          cases andGiven : evalAll setting.environment.filters scope.context args with
          | error error =>
              rw [given, andGiven] at parts
              exact parts.append_of_error _ _
          | ok values =>
              rw [given, andGiven] at parts
              exact parts.filter given andGiven

theorem realized_codes (setting : Setting) (scope : Scope) (args : List Expression) :
    Realized setting scope (nodesOfAll args) (codes args)
      (evalAll setting.environment.filters scope.context args) := by
  match args with
  | [] => exact realized_nil
  | arg :: rest =>
      have parts := (realized_code setting scope arg).append (realized_codes setting scope rest)
      rw [evalAll, nodesOfAll, codes]
      cases given : arg.eval setting.environment.filters scope.context with
      | error error =>
          rw [given] at parts
          exact parts
      | ok value =>
          rw [given] at parts
          exact parts

end

theorem map_singleton {α : Type} (result : Except Error Value) (f : List Value → α) :
    (result.map ([·])).map f = result.map fun value => f [value] := by
  cases result <;> rfl

/-- Whatever lies on the stack and was put out before, the instructions of an expression push its
value and change nothing else, or fail with the error with which its evaluation fails. On the way
they call one filter of the expression after the other, each once, with its value and its arguments
in order, and when one fails or is not known, they call no further one and fail with that error. -/
theorem postfix_evaluates (setting : Setting) (scope : Scope) (expression : Expression) :
    let result := expression.eval setting.environment.filters scope.context
    ∃ made,
      Applied setting.environment.filters scope.context expression.nodes (result.map fun _ => ())
        made ∧
      ∀ calls stack output state,
        Code.runFrom setting calls scope ⟨stack, output⟩ expression.code state =
          some (result.map fun value => ⟨value :: stack, output⟩, state.log made) := by
  obtain ⟨made, applied, runs⟩ := realized_code setting scope expression
  rw [map_singleton] at applied
  simp only [map_singleton] at runs
  exact ⟨made, applied, runs⟩

end Expression

end Stencil
