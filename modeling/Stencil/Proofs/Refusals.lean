import Stencil.Proofs.Writing

set_option autoImplicit false

namespace Stencil.Filter

/-! ### What is refused and what is given -/

/-- The built-in filters, with the number of arguments that each takes at most. -/
def limits : List (String × Nat) := [
  ("upper", 0), ("lower", 0), ("title", 0), ("capitalize", 0), ("trim", 1), ("replace", 2),
  ("length", 0), ("default", 1), ("join", 1), ("escape", 0), ("e", 0)]

inductive RefusesArguments (name : String) (args : List Value) : Prop where
  /-- There are more than it takes. -/
  | tooMany {limit : Nat} (listed : (name, limit) ∈ limits) (more : limit < args.length)
  /-- Trimming and joining take texts. -/
  | notText {arg : Value} (named : name = "trim" ∨ name = "join") (given : arg ∈ args)
      (other : ∀ text, arg ≠ .string text)
  /-- Replacing takes two texts. -/
  | notTwoTexts (named : name = "replace")
      (other : ∀ pattern replacement, args ≠ [.string pattern, .string replacement])

inductive RefusesValue (name : String) : Value → Prop where
  | null (named : name = "length") : RefusesValue name .null
  | bool {value : Bool} (named : name = "length" ∨ name = "join") : RefusesValue name (.bool value)
  | number {value : Number} (named : name = "length" ∨ name = "join") :
      RefusesValue name (.number value)
  | object {fields : Dict Value} (named : name = "join") : RefusesValue name (.object fields)

/-- What the filter of a name makes of a value and arguments. -/
inductive Yields (name : String) (value : Value) (args : List Value) : Value → Prop where
  /-- Most filters give a text. -/
  | text {text : String} (notLength : name ≠ "length") (notDefault : name ≠ "default") :
      Yields name value args (.string text)
  | characters {text : String} (named : name = "length") (given : value = .string text) :
      Yields name value args (.number (.int text.toList.length))
  | items {items : List Value} (named : name = "length") (given : value = .array items) :
      Yields name value args (.number (.int items.length))
  | keys {fields : Dict Value} (named : name = "length") (given : value = .object fields) :
      Yields name value args (.number (.int fields.keys.length))
  /-- A value that is not empty stands for itself. -/
  | itself (named : name = "default") (notNull : value ≠ .null) (notEmpty : value ≠ .string "") :
      Yields name value args value
  /-- The argument stands in for an empty value. -/
  | argument {arg : Value} (named : name = "default") (empty : value = .null ∨ value = .string "")
      (given : args = [arg]) : Yields name value args arg
  /-- Without an argument the empty text stands in for it. -/
  | nothing (named : name = "default") (empty : value = .null ∨ value = .string "")
      (none : args = []) : Yields name value args (.string "")

/-- What becomes of applying the filter of a name: the arguments are refused, or else the value is,
or else there is a result. -/
inductive Settles (name : String) (value : Value) (args : List Value) :
    Except Error Value → Prop where
  | arguments {error : Error} (refused : RefusesArguments name args)
      (kind : error.kind = .invalidArguments) : Settles name value args (.error error)
  | value {error : Error} (taken : ¬ RefusesArguments name args) (refused : RefusesValue name value)
      (kind : error.kind = .invalidOperation) : Settles name value args (.error error)
  | result {result : Value} (taken : ¬ RefusesArguments name args)
      (suited : ¬ RefusesValue name value) (yields : Yields name value args result) :
      Settles name value args (.ok result)

/-! ### Checking arguments -/

section Checks

variable {name own : String} {limit : Nat} {value : Value} {args : List Value}

theorem refusesValue_null_iff : RefusesValue name .null ↔ name = "length" := by
  constructor
  · rintro ⟨named⟩
    exact named
  · exact .null

theorem refusesValue_object_iff {fields : Dict Value} :
    RefusesValue name (.object fields) ↔ name = "join" := by
  constructor
  · intro refuses
    cases refuses with
    | object named => exact named
  · exact .object

theorem not_refusesValue (notLength : name ≠ "length") (notJoin : name ≠ "join") :
    ¬ RefusesValue name value := by
  intro refuses
  cases refuses with
  | null named => exact notLength named
  | bool named | number named => exact named.elim notLength notJoin
  | object named => exact notJoin named

theorem limits_unique :
    ∀ entry ∈ limits, ∀ other ∈ limits, entry.1 = other.1 → entry.2 = other.2 := by decide

theorem not_refusesArguments (listed : (name, limit) ∈ limits) (few : args.length ≤ limit)
    (texts : name = "trim" ∨ name = "join" → ∀ arg ∈ args, ∃ text, arg = .string text)
    (two : name = "replace" →
      ∃ pattern replacement, args = [.string pattern, .string replacement]) :
    ¬ RefusesArguments name args := by
  intro refuses
  cases refuses with
  | tooMany listedToo more =>
      have same : limit = _ := limits_unique _ listed _ listedToo rfl
      omega
  | notText named given other =>
      obtain ⟨text, isText⟩ := texts named _ given
      exact other text isText
  | notTwoTexts named other =>
      obtain ⟨pattern, replacement, areTexts⟩ := two named
      exact other pattern replacement areTexts

/-- Most filters look at the number of arguments only. -/
theorem not_refusesArguments_of_unchecked (listed : (name, limit) ∈ limits)
    (few : args.length ≤ limit) (unchecked : name ∉ ["trim", "join", "replace"]) :
    ¬ RefusesArguments name args := by
  simp only [List.mem_cons, List.not_mem_nil, or_false, not_or] at unchecked
  obtain ⟨notTrim, notJoin, notReplace⟩ := unchecked
  exact not_refusesArguments listed few (fun named => (named.elim notTrim notJoin).elim)
    (fun named => absurd named notReplace)

theorem settles_of_taken {text : String} (taken : ¬ RefusesArguments name args)
    (ordinary : name ∉ ["length", "join", "default"]) :
    Settles name value args (.ok (.string text)) := by
  simp only [List.mem_cons, List.not_mem_nil, or_false, not_or] at ordinary
  obtain ⟨notLength, notJoin, notDefault⟩ := ordinary
  exact .result taken (not_refusesValue notLength notJoin) (.text notLength notDefault)

/-- A check of the number of arguments in front of the rest. -/
theorem settles_atMost {rest : Except Error Value} (listed : (name, limit) ∈ limits)
    (few : args.length ≤ limit → Settles name value args rest) :
    Settles name value args (atMost own limit args >>= fun _ => rest) := by
  by_cases more : args.length > limit
  · have refused : atMost own limit args = .error (tooManyArguments own limit) := if_pos more
    rw [refused]
    exact .arguments (.tooMany listed more) rfl
  · have taken : atMost own limit args = .ok () := if_neg more
    rw [taken]
    exact few (Nat.le_of_not_lt more)

/-- A check that the only argument is a text, in front of the rest. -/
theorem settles_textArg {rest : Option String → Except Error Value} (listed : (name, 1) ∈ limits)
    (named : name = "trim" ∨ name = "join") (few : args.length ≤ 1)
    (further : ¬ RefusesArguments name args → ∀ given, Settles name value args (rest given)) :
    Settles name value args (textArg own args 0 >>= rest) := by
  have notReplace : name ≠ "replace" := by
    rintro rfl
    revert named
    decide
  match args, few with
  | [], few =>
      have taken : ¬ RefusesArguments name [] :=
        not_refusesArguments listed few (fun _ _ member => absurd member List.not_mem_nil)
          (fun replace => absurd replace notReplace)
      exact further taken none
  | [arg], few =>
      cases arg with
      | string text =>
          have taken : ¬ RefusesArguments name [.string text] :=
            not_refusesArguments listed few
              (fun _ arg member => ⟨text, List.mem_singleton.1 member⟩)
              (fun replace => absurd replace notReplace)
          exact further taken (some text)
      | null | bool | number | array | object =>
          exact .arguments (.notText named List.mem_cons_self (by rintro _ ⟨⟩)) rfl

end Checks

/-! ### The filters one by one -/

section Filters

variable (value : Value) (args : List Value)

/-- A filter that takes no arguments and gives a text for every value. -/
theorem settles_text {name : String} (own text : String) (listed : (name, 0) ∈ limits)
    (unchecked : name ∉ ["trim", "join", "replace"])
    (ordinary : name ∉ ["length", "join", "default"]) :
    Settles name value args (atMost own 0 args >>= fun _ => .ok (.string text)) := by
  apply settles_atMost listed
  intro few
  exact settles_of_taken (not_refusesArguments_of_unchecked listed few unchecked) ordinary

theorem trim_settles : Settles "trim" value args (trim.apply value args) := by
  apply settles_atMost (by decide : ("trim", 1) ∈ limits)
  intro few
  apply settles_textArg (by decide) (Or.inl rfl) few
  intro taken strip
  exact settles_of_taken taken (by decide)

theorem replace_settles : Settles "replace" value args (replace.apply value args) := by
  apply settles_atMost (by decide : ("replace", 2) ∈ limits)
  intro few
  -- Without two texts the arguments are refused, whichever check finds out first.
  have refused : (∀ pattern replacement, args ≠ [.string pattern, .string replacement]) →
      ∀ error : Error, error.kind = .invalidArguments →
        Settles "replace" value args (.error error) :=
    fun other error kind => .arguments (.notTwoTexts rfl other) kind
  match args, few with
  | [], few => exact refused (by rintro _ _ ⟨⟩) _ rfl
  | [pattern], few =>
      cases pattern with
      | null | bool | number | string | array | object => exact refused (by rintro _ _ ⟨⟩) _ rfl
  | [pattern, replacement], few =>
      cases pattern with
      | null | bool | number | array | object => exact refused (by rintro _ _ ⟨⟩) _ rfl
      | string pattern =>
          cases replacement with
          | null | bool | number | array | object => exact refused (by rintro _ _ ⟨⟩) _ rfl
          | string replacement =>
              have taken : ¬ RefusesArguments "replace" [.string pattern, .string replacement] :=
                not_refusesArguments (by decide) few (fun strict => absurd strict (by decide))
                  (fun _ => ⟨pattern, replacement, rfl⟩)
              exact settles_of_taken taken (by decide)

theorem length_settles : Settles "length" value args (length.apply value args) := by
  apply settles_atMost (by decide : ("length", 0) ∈ limits)
  intro few
  have taken : ¬ RefusesArguments "length" args :=
    not_refusesArguments_of_unchecked (by decide) few (by decide)
  cases value with
  | null => exact .value taken (.null rfl) rfl
  | bool => exact .value taken (.bool (Or.inl rfl)) rfl
  | number => exact .value taken (.number (Or.inl rfl)) rfl
  | string text =>
      have count : Yields "length" (.string text) args (.number (.int text.length)) := by
        rw [← String.length_toList]
        exact .characters rfl rfl
      exact .result taken (by rintro ⟨⟩) count
  | array items => exact .result taken (by rintro ⟨⟩) (.items rfl rfl)
  | object fields =>
      have count : Yields "length" (.object fields) args (.number (.int fields.size)) := by
        have size : fields.keys.length = fields.size := List.length_map _
        rw [← size]
        exact .keys rfl rfl
      exact .result taken (mt refusesValue_object_iff.1 (by decide)) count

theorem isEmpty_iff : value.isEmpty = true ↔ value = .null ∨ value = .string "" := by
  cases value <;> simp [Value.isEmpty]

theorem default_settles : Settles "default" value args (default.apply value args) := by
  apply settles_atMost (by decide : ("default", 1) ∈ limits)
  intro few
  have taken : ¬ RefusesArguments "default" args :=
    not_refusesArguments_of_unchecked (by decide) few (by decide)
  have suited : ¬ RefusesValue "default" value := not_refusesValue (by decide) (by decide)
  by_cases blank : value.isEmpty = true
  · have empty := (isEmpty_iff value).1 blank
    rw [if_pos blank]
    match args, few with
    | [], few => exact .result taken suited (.nothing rfl empty rfl)
    | [arg], few => exact .result taken suited (.argument rfl empty rfl)
  · have full := mt (isEmpty_iff value).2 blank
    rw [if_neg blank]
    exact .result taken suited (.itself rfl (fun null => full (Or.inl null))
      (fun none => full (Or.inr none)))

theorem join_settles : Settles "join" value args (join.apply value args) := by
  apply settles_atMost (by decide : ("join", 1) ∈ limits)
  intro few
  apply settles_textArg (by decide) (Or.inr rfl) few
  intro taken joiner
  cases value with
  | null =>
      have suited : ¬ RefusesValue "join" .null := mt refusesValue_null_iff.1 (by decide)
      exact .result taken suited (.text (by decide) (by decide))
  | string text => exact .result taken (by rintro ⟨⟩) (.text (by decide) (by decide))
  | array items => exact .result taken (by rintro ⟨⟩) (.text (by decide) (by decide))
  | bool => exact .value taken (.bool (Or.inr rfl)) rfl
  | number => exact .value taken (.number (Or.inr rfl)) rfl
  | object => exact .value taken (.object rfl) rfl

end Filters

/-! ### The registered names -/

theorem exists_builtin {name : String} (registered : name ∈ limits.map Prod.fst) :
    ∃ filter, builtin.get? name = some filter ∧
      ∀ value args, Settles name value args (filter.apply value args) := by
  simp only [limits, List.map_cons, List.map_nil, List.mem_cons, List.not_mem_nil, or_false]
    at registered
  rcases registered with rfl | rfl | rfl | rfl | rfl | rfl | rfl | rfl | rfl | rfl | rfl
  · exact ⟨upper, rfl, fun value args =>
      settles_text value args "upper" _ (by decide) (by decide) (by decide)⟩
  · exact ⟨lower, rfl, fun value args =>
      settles_text value args "lower" _ (by decide) (by decide) (by decide)⟩
  · exact ⟨title, rfl, fun value args =>
      settles_text value args "title" _ (by decide) (by decide) (by decide)⟩
  · exact ⟨capitalize, rfl, fun value args =>
      settles_text value args "capitalize" _ (by decide) (by decide) (by decide)⟩
  · exact ⟨trim, rfl, trim_settles⟩
  · exact ⟨replace, rfl, replace_settles⟩
  · exact ⟨length, rfl, length_settles⟩
  · exact ⟨default, rfl, default_settles⟩
  · exact ⟨join, rfl, join_settles⟩
  · exact ⟨escape, rfl, fun value args =>
      settles_text value args "escape" _ (by decide) (by decide) (by decide)⟩
  · exact ⟨escape, rfl, fun value args =>
      settles_text value args "escape" _ (by decide) (by decide) (by decide)⟩

theorem builtin_get?_eq_none {name : String} (unregistered : name ∉ limits.map Prod.fst) :
    builtin.get? name = none := by
  have registered : ∀ key ∈ builtin.keys, key ∈ limits.map Prod.fst := by decide +kernel
  cases found : builtin.get? name with
  | none => rfl
  | some filter =>
      have known : builtin.contains name = true := by
        rw [Dict.contains, found]
        rfl
      exact absurd (registered name ((builtin.mem_keys_iff name).2 known)) unregistered

theorem registered_of_refusesArguments {name : String} {args : List Value}
    (refuses : RefusesArguments name args) : name ∈ limits.map Prod.fst := by
  cases refuses with
  | tooMany listed more => exact List.mem_map_of_mem listed
  | notText named given other => rcases named with rfl | rfl <;> decide
  | notTwoTexts named other =>
      subst named
      decide

theorem registered_of_refusesValue {name : String} {value : Value}
    (refuses : RefusesValue name value) : name ∈ limits.map Prod.fst := by
  by_cases isLength : name = "length"
  · subst isLength
    decide
  · by_cases isJoin : name = "join"
    · subst isJoin
      decide
    · exact absurd refuses (not_refusesValue isLength isJoin)

/-! ### Kinds of failure -/

def FailsWith (outcome : Except Error Value) (kind : ErrorKind) : Prop :=
  ∃ error, outcome = .error error ∧ error.kind = kind

theorem failsWith_error_iff {error : Error} {kind : ErrorKind} :
    FailsWith (.error error) kind ↔ error.kind = kind := by
  constructor
  · rintro ⟨other, same, has⟩
    cases same
    exact has
  · exact fun has => ⟨error, rfl, has⟩

theorem not_failsWith_ok {result : Value} {kind : ErrorKind} : ¬ FailsWith (.ok result) kind := by
  rintro ⟨error, same, -⟩
  cases same

/-- When applying the filter of a name fails, by kind, and what it gives otherwise. -/
structure Decides (name : String) (value : Value) (args : List Value)
    (outcome : Except Error Value) : Prop where
  /-- A name that is not registered is unknown. -/
  unknown : FailsWith outcome .unknownFilter ↔ name ∉ limits.map Prod.fst
  /-- Arguments are refused whatever the value is. -/
  arguments : FailsWith outcome .invalidArguments ↔ RefusesArguments name args
  /-- A value is refused when the arguments are not. -/
  operation : FailsWith outcome .invalidOperation ↔
    ¬ RefusesArguments name args ∧ RefusesValue name value
  succeeds : (∃ result, outcome = .ok result) ↔
    name ∈ limits.map Prod.fst ∧ ¬ RefusesArguments name args ∧ ¬ RefusesValue name value
  yields : ∀ result, outcome = .ok result → Yields name value args result
  /-- There are no other kinds. -/
  kinds : ∀ error, outcome = .error error →
    error.kind ∈ [.unknownFilter, .invalidArguments, .invalidOperation]

theorem Settles.decides {name : String} {value : Value} {args : List Value}
    {outcome : Except Error Value} (settles : Settles name value args outcome)
    (registered : name ∈ limits.map Prod.fst) : Decides name value args outcome := by
  cases settles with
  | arguments refused kind =>
      constructor <;> simp [failsWith_error_iff, kind, refused, registered]
  | value taken refused kind =>
      constructor <;> simp [failsWith_error_iff, kind, taken, refused, registered]
  | result taken suited yields =>
      constructor <;> simp [not_failsWith_ok, taken, suited, yields, registered]

theorem decides_of_unregistered {name : String} (unregistered : name ∉ limits.map Prod.fst)
    (value : Value) (args : List Value) :
    Decides name value args (.error (.unknownFilter name)) := by
  have taken : ¬ RefusesArguments name args :=
    fun refuses => unregistered (registered_of_refusesArguments refuses)
  have suited : ¬ RefusesValue name value :=
    fun refuses => unregistered (registered_of_refusesValue refuses)
  have kind : (Error.unknownFilter name).kind = .unknownFilter := rfl
  constructor <;> simp [failsWith_error_iff, kind, taken, suited, unregistered]

end Stencil.Filter

namespace Stencil

theorem Engine.applyFilter_ends (engine : Engine) (name : String) (value : Value)
    (args : List Value) : ∃ after, engine.applyFilter name value args =
      some (Filters.apply engine.environment.filters name value args, after) := by
  obtain ⟨after, ended⟩ := Setting.applyFilter_gives engine.setting name value args engine.state
  exact ⟨_, Engine.perform_of ended⟩

/-- Where the filters are exactly the built-in ones, applying a filter always ends, and it fails for
the reasons given and for no others: the name is not registered, the arguments are refused, or else
the value is. -/
theorem builtin_filters_decide (engine : Engine)
    (own : engine.environment.filters = Filter.builtin) (name : String) (value : Value)
    (args : List Value) : ∃ outcome after,
      engine.applyFilter name value args = some (outcome, after) ∧
      Filter.Decides name value args outcome := by
  obtain ⟨after, applied⟩ := engine.applyFilter_ends name value args
  refine ⟨_, after, applied, ?_⟩
  rw [own]
  by_cases registered : name ∈ Filter.limits.map Prod.fst
  · obtain ⟨filter, found, settles⟩ := Filter.exists_builtin registered
    rw [Filters.apply_of_known found]
    exact (settles value args).decides registered
  · rw [Filters.apply_of_unknown (Filter.builtin_get?_eq_none registered)]
    exact Filter.decides_of_unregistered registered value args

/-- Where both the argument and the value are refused, the argument is reported. -/
theorem builtin_filters_decide_join :
    let engine := Engine.new (.ofLoaders []) .empty
    engine.environment.filters = Filter.builtin ∧
    Filter.RefusesArguments "join" [.null] ∧ Filter.RefusesValue "join" (.bool true) ∧
    ∃ outcome after, engine.applyFilter "join" (.bool true) [.null] = some (outcome, after) ∧
      Filter.FailsWith outcome .invalidArguments ∧
      ¬ Filter.FailsWith outcome .invalidOperation := by
  intro engine
  have refused : Filter.RefusesArguments "join" [.null] :=
    .notText (Or.inr rfl) List.mem_cons_self (by rintro _ ⟨⟩)
  obtain ⟨outcome, after, applied, decides⟩ :=
    builtin_filters_decide engine rfl "join" (.bool true) [.null]
  refine ⟨rfl, refused, .bool (Or.inr rfl), outcome, after, applied,
    decides.arguments.2 refused, ?_⟩
  intro failed
  exact (decides.operation.1 failed).1 refused

end Stencil
