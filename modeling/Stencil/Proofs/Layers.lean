import Stencil.Engine.Basic
import Stencil.Proofs.Partition

set_option autoImplicit false

namespace Stencil

namespace Presenter

/-- The presenter once defaults were set, one after the other. -/
def ofDefaults (settings : List (String × Data)) : Presenter :=
  settings.foldl (fun presenter setting => presenter.setDefault setting.1 setting.2) new

/-- The default that was set last for a name. It is null if the data did not convert. -/
def lastDefault (settings : List (String × Data)) (name : String) : Option Value :=
  (settings.reverse.find? fun setting => setting.1 = name).map fun setting => setting.2.orNull

/-- What a name stands for once the layers are laid over each other: what it does in the data, unless
it is the name of the request's variables, or else in these, or else by default. -/
def layered (settings : List (String × Data)) (locals fields : Dict Value) (name : String) :
    Option Value :=
  (if name = localsKey then none else fields.get? name).or
    ((locals.get? name).or (lastDefault settings name))

/-- What data brings to a view: variables of the request, and its own entries. -/
inductive Brings : Value → Dict Value → Dict Value → Prop where
  /-- Null brings nothing. -/
  | nothing : Brings .null ∅ ∅
  /-- A dictionary brings its entries. -/
  | entries {fields : Dict Value} (absent : fields.get? localsKey = none) :
      Brings (.object fields) ∅ fields
  /-- Null under the name of the request's variables stands for none. -/
  | noLocals {fields : Dict Value} (null : fields.get? localsKey = some .null) :
      Brings (.object fields) ∅ fields
  /-- A dictionary under that name brings the variables of the request. -/
  | withLocals {fields locals : Dict Value} (found : fields.get? localsKey = some (.object locals)) :
      Brings (.object fields) locals fields

inductive Refused : Value → Error → Prop where
  /-- It is neither null nor a dictionary. -/
  | data {value : Value} (notNull : value ≠ .null) (notObject : ∀ fields, value ≠ .object fields) :
      Refused value (.new .badSerialization ("render data must be a map, got " ++ value.kindName))
  /-- What it has in the place of the request's variables is neither null nor a dictionary. -/
  | locals {fields : Dict Value} {value : Value} (found : fields.get? localsKey = some value)
      (notNull : value ≠ .null) (notObject : ∀ locals, value ≠ .object locals) :
      Refused (.object fields)
        (.new .invalidArguments ("_locals must be a map, got " ++ value.kindName))

theorem ofDefaults_concat (settings : List (String × Data)) (setting : String × Data) :
    ofDefaults (settings ++ [setting]) = (ofDefaults settings).setDefault setting.1 setting.2 := by
  rw [ofDefaults, List.foldl_append]
  rfl

theorem get?_ofDefaults (settings : List (String × Data)) (name : String) :
    (ofDefaults settings).defaults.get? name = lastDefault settings name := by
  induction settings using List.reverseRecOn with
  | nil => rfl
  | append_singleton settings setting ih =>
      rw [ofDefaults_concat, lastDefault, List.reverse_append, List.reverse_singleton,
        List.singleton_append, List.find?_cons]
      refine (Dict.get?_insert _ setting.1 name _).trans ?_
      by_cases same : name = setting.1
      · simp [same]
      · simp only [same, Ne.symm same, ↓reduceIte, decide_false]
        exact ih

theorem brings_or_refused (data : Value) :
    (∃ locals fields, Brings data locals fields) ∨ ∃ error, Refused data error := by
  cases data with
  | null => exact Or.inl ⟨_, _, .nothing⟩
  | object fields =>
      cases found : fields.get? localsKey with
      | none => exact Or.inl ⟨_, _, .entries found⟩
      | some value =>
          cases value with
          | null => exact Or.inl ⟨_, _, .noLocals found⟩
          | object locals => exact Or.inl ⟨_, _, .withLocals found⟩
          | bool | number | string | array =>
              exact Or.inr ⟨_, .locals found (by rintro ⟨⟩) (by rintro _ ⟨⟩)⟩
  | bool | number | string | array => exact Or.inr ⟨_, .data (by rintro ⟨⟩) (by rintro _ ⟨⟩)⟩

variable {presenter : Presenter} {data : Value}

/-- Data with the right layers is merged, and names stand for what the layers say. -/
theorem merge_of_brings (presenter : Presenter) {locals fields : Dict Value}
    (brings : Brings data locals fields) :
    ∃ bindings, presenter.merge data = .ok bindings ∧
      ∀ name, bindings.get? name = (if name = localsKey then none else fields.get? name).or
        ((locals.get? name).or (presenter.defaults.get? name)) := by
  have laid : ∀ locals fields : Dict Value, ∀ name,
      ((presenter.defaults.overlay locals).overlay (fields.erase localsKey)).get? name =
        (if name = localsKey then none else fields.get? name).or
          ((locals.get? name).or (presenter.defaults.get? name)) := by
    intro locals fields name
    rw [Dict.get?_overlay, Dict.get?_overlay, Dict.get?_erase]
  cases brings with
  | nothing =>
      refine ⟨presenter.defaults, rfl, ?_⟩
      intro name
      simp
  | entries absent =>
      refine ⟨_, ?_, laid ∅ fields⟩
      rw [merge, Presenter.locals, absent]
      rfl
  | noLocals null =>
      refine ⟨_, ?_, laid ∅ fields⟩
      rw [merge, Presenter.locals, null]
      rfl
  | withLocals found =>
      refine ⟨_, ?_, laid locals fields⟩
      rw [merge, Presenter.locals, found]
      rfl

theorem merge_of_refused {error : Error} (refused : Refused data error) :
    presenter.merge data = .error error := by
  cases refused with
  | data notNull notObject =>
      cases data with
      | null => exact absurd rfl notNull
      | object fields => exact absurd rfl (notObject fields)
      | bool | number | string | array => rfl
  | @locals fields value found notNull notObject =>
      rw [merge, Presenter.locals, found]
      cases value with
      | null => exact absurd rfl notNull
      | object locals => exact absurd rfl (notObject locals)
      | bool | number | string | array => rfl

/-- Rendering a view is a lookup, and then rendering what it gives with the merged variables. -/
theorem renderView_of_ok {bindings : Dict Value} (merged : presenter.merge data = .ok bindings)
    (engine : Engine) (limit : Nat) (name : String) :
    engine.renderView limit presenter name data =
      (engine.fetch limit name false).bind fun outcome =>
        match outcome with
        | (.error error, after) => some (.error error, after)
        | (.ok template, after) => after.render limit template (.ok (.object bindings)) := by
  let calls := engine.setting.calls limit
  have given : Run.ofExcept (presenter.merge data) engine.state =
      some (.ok bindings, engine.state) := by
    rw [merged]
    rfl
  have rendered : presenter.render engine.setting calls name data engine.state =
      (engine.setting.fetch calls name false >>= fun template =>
        engine.setting.render calls template (.ok (.object bindings))) engine.state :=
    Run.bind_of_ok _ given
  change (presenter.render engine.setting calls name data engine.state).map _ =
    ((engine.setting.fetch calls name false engine.state).map _).bind _
  rw [rendered]
  cases fetched : engine.setting.fetch calls name false engine.state with
  | none =>
      rw [Run.bind_of_none _ fetched]
      rfl
  | some outcome =>
      obtain ⟨result, after⟩ := outcome
      cases result with
      | error error =>
          rw [Run.bind_of_error _ fetched]
          rfl
      | ok template =>
          rw [Run.bind_of_ok _ fetched]
          rfl

/-- Data that is refused ends it before anything is done. -/
theorem renderView_of_error {error : Error} (refused : presenter.merge data = .error error)
    (engine : Engine) (limit : Nat) (name : String) :
    engine.renderView limit presenter name data = some (.error error, engine) := by
  unfold Engine.renderView Engine.perform Presenter.render
  rw [refused]
  rfl

end Presenter

/-- The variables of a view, and what becomes of them. Data is merged unless it is refused, and the
result is the dictionary in which each name stands for what the layers say. A view is rendered with
that, like any template that was looked up; data that is refused is reported as it is, and leaves the
engine as it was. -/
theorem layers_decide_variables (settings : List (String × Data)) (data : Value) :
    let presenter := Presenter.ofDefaults settings
    ((∃ bindings, presenter.merge data = .ok bindings) ↔
      ∃ locals fields, Presenter.Brings data locals fields) ∧
    (∀ error, presenter.merge data = .error error ↔ Presenter.Refused data error) ∧
    (∀ locals fields, Presenter.Brings data locals fields → ∀ bindings,
      presenter.merge data = .ok bindings ↔
        ∀ name, bindings.get? name = Presenter.layered settings locals fields name) ∧
    ∀ (engine : Engine) (limit : Nat) (name : String),
      (∀ bindings, presenter.merge data = .ok bindings →
        engine.renderView limit presenter name data =
          (engine.fetch limit name false).bind fun outcome =>
            match outcome with
            | (.error error, after) => some (.error error, after)
            | (.ok template, after) => after.render limit template (.ok (.object bindings))) ∧
      ∀ error, presenter.merge data = .error error →
        engine.renderView limit presenter name data = some (.error error, engine) := by
  intro presenter
  have merges : ∀ locals fields, Presenter.Brings data locals fields →
      ∃ bindings, presenter.merge data = .ok bindings ∧
        ∀ name, bindings.get? name = Presenter.layered settings locals fields name := by
    intro locals fields brings
    obtain ⟨bindings, merged, stands⟩ :=
      Presenter.merge_of_brings presenter brings
    refine ⟨bindings, merged, ?_⟩
    intro name
    rw [stands, Presenter.get?_ofDefaults, Presenter.layered]
  refine ⟨⟨?_, ?_⟩, ?_, ?_, ?_⟩
  · rintro ⟨bindings, merged⟩
    rcases Presenter.brings_or_refused data with brings | ⟨error, refused⟩
    · exact brings
    · rw [Presenter.merge_of_refused refused] at merged
      cases merged
  · rintro ⟨locals, fields, brings⟩
    obtain ⟨bindings, merged, -⟩ := merges locals fields brings
    exact ⟨bindings, merged⟩
  · intro error
    refine ⟨?_, fun refused => Presenter.merge_of_refused refused⟩
    intro failed
    rcases Presenter.brings_or_refused data with ⟨locals, fields, brings⟩ | ⟨other, refused⟩
    · obtain ⟨bindings, merged, -⟩ := merges locals fields brings
      cases merged.symm.trans failed
    · cases (Presenter.merge_of_refused refused).symm.trans failed
      exact refused
  · intro locals fields brings bindings
    obtain ⟨merged, same, stands⟩ := merges locals fields brings
    constructor
    · intro alsoMerged
      cases same.symm.trans alsoMerged
      exact stands
    · intro alsoStands
      have equal : bindings = merged :=
        Dict.ext fun name => (alsoStands name).trans (stands name).symm
      rw [equal, same]
  · intro engine limit name
    exact ⟨fun bindings merged => Presenter.renderView_of_ok merged engine limit name,
      fun error refused => Presenter.renderView_of_error refused engine limit name⟩

/-- Null in the data hides what lies below it, and the variables of the request may bring along one of
their own name. Of two defaults the later counts, and one that did not convert is null. -/
theorem layers_decide_variables_reserved :
    let settings : List (String × Data) := [("title", .ok (.string "Untitled")),
      ("user", .error "broken"), ("title", .ok (.string "Home"))]
    let locals : Dict Value := .ofList [("_locals", .bool true), ("page", .string "index")]
    let fields : Dict Value := .ofList [("_locals", .object locals), ("page", .null)]
    let bindings : Dict Value := .ofList [("_locals", .bool true), ("page", .null),
      ("title", .string "Home"), ("user", .null)]
    let presenter := Presenter.ofDefaults settings
    Presenter.Brings (.object fields) locals fields ∧
    presenter.merge (.object fields) = .ok bindings ∧
    Presenter.Refused (.bool true)
      (.new .badSerialization "render data must be a map, got bool") ∧
    ∀ engine limit, Engine.renderView engine limit presenter "page" (.bool true) =
      some (.error (.new .badSerialization "render data must be a map, got bool"), engine) := by
  intro settings locals fields bindings presenter
  have brings : Presenter.Brings (.object fields) locals fields :=
    .withLocals (Dict.get?_ofList _ _)
  have stands : ∀ name, bindings.get? name = Presenter.layered settings locals fields name := by
    intro name
    simp only [bindings, locals, fields, Presenter.layered, Dict.get?_ofList]
    by_cases reserved : name = "_locals"
    · subst reserved
      rfl
    by_cases page : name = "page"
    · subst page
      rfl
    by_cases title : name = "title"
    · subst title
      rfl
    by_cases user : name = "user"
    · subst user
      rfl
    simp [settings, Presenter.lastDefault, Presenter.localsKey, Ne.symm reserved, Ne.symm page,
      Ne.symm title, Ne.symm user]
  have refused : Presenter.Refused (.bool true)
      (.new .badSerialization "render data must be a map, got bool") :=
    .data (by rintro ⟨⟩) (by rintro _ ⟨⟩)
  obtain ⟨-, -, merges, -⟩ := layers_decide_variables settings (.object fields)
  obtain ⟨-, refuses, -, views⟩ := layers_decide_variables settings (.bool true)
  refine ⟨brings, (merges _ _ brings bindings).2 stands, refused, ?_⟩
  intro engine limit
  exact (views engine limit "page").2 _ ((refuses _).2 refused)

end Stencil
