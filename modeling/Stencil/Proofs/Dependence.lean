import Stencil.Proofs.Growth

set_option autoImplicit false

namespace Stencil

/-- What a name resolves to: its variable, or the empty text where there is none. -/
def Dict.resolve (bindings : Dict Value) (name : String) : Value :=
  (bindings.get? name).getD .missing

/-- The data is converted to the variables. -/
def Data.Binds (data : Data) (bindings : Dict Value) : Prop :=
  ∃ value, data.toValue = .ok value ∧ value.toVariables = .ok bindings

inductive Compiled.Has (form : Compiled) : Procedure → Prop
  | root : Has form form.root
  | body {block : String} {procedure : Procedure} (stands : procedure ∈ form.blocks.stack block) :
      Has form procedure

/-- The instruction occurs in the root, or in a body of some block. -/
def Compiled.Contains (form : Compiled) (op : Op) : Prop :=
  ∃ procedure code, form.Has procedure ∧ procedure.body = .code code ∧ op ∈ code

/-- Scopes in which the instructions of the form see no difference. -/
structure Compiled.Similar (form : Compiled) (scope inner : Scope) : Prop where
  blocks : scope.context.blocks = form.blocks
  alsoBlocks : inner.context.blocks = form.blocks
  current : scope.current = inner.current
  resolve : ∀ name, form.Contains (.lookup name) →
    scope.context.lookup name = inner.context.lookup name

/-- Calls under which the procedures of the form agree, where they see no difference. -/
def Calls.InvokeSimilar (form : Compiled) (calls other : Calls) : Prop :=
  ∀ procedure scope inner, form.Has procedure → form.Similar scope inner →
    Run.Agree Eq (calls.invoke procedure scope) (other.invoke procedure inner)

theorem Compiled.All.of_has {P : Procedure → Prop} {form : Compiled} (all : form.All P)
    {procedure : Procedure} (has : form.Has procedure) : P procedure := by
  cases has with
  | root => exact all.root
  | body stands => exact all.bodies _ _ stands

/-! ### Dispatch -/

section Similar

variable {form : Compiled} {scope inner : Scope} (similar : form.Similar scope inner)
include similar

theorem Compiled.Similar.block (name : String) :
    scope.context.block name = inner.context.block name := by
  unfold Context.block
  rw [similar.blocks, similar.alsoBlocks]

theorem Compiled.Similar.super : scope.super = inner.super := by
  unfold Scope.super
  rw [similar.current]
  split
  · rfl
  · unfold Context.super
    rw [similar.blocks, similar.alsoBlocks]

/-- A body to which rendering goes is one of the form, and finds no difference either. -/
theorem Compiled.Similar.enter {block : Block}
    (placed : Scope.Placed (.inside scope.context block)) :
    form.Has block.procedure ∧
      form.Similar (.inside scope.context block) (.inside inner.context block) := by
  have stands : (scope.context.blocks.stack block.name)[block.depth]? = some block.procedure :=
    placed.inStack rfl
  rw [similar.blocks] at stands
  exact ⟨.body (List.mem_of_getElem? stands),
    similar.blocks, similar.alsoBlocks, rfl, similar.resolve⟩

variable {calls other : Calls} (invoke : Calls.InvokeSimilar form calls other)
include invoke

theorem Compiled.Similar.renderBlock_agree (name : String) :
    Run.Agree Eq (scope.renderBlock calls name) (inner.renderBlock other name) := by
  unfold Scope.renderBlock
  rw [← similar.block name]
  cases found : scope.context.block name with
  | error error => exact Run.agree_fail error
  | ok block =>
      obtain ⟨has, alsoSimilar⟩ := similar.enter (Context.placed_block found)
      exact invoke _ _ _ has alsoSimilar

theorem Compiled.Similar.renderSuper_agree :
    Run.Agree Eq (scope.renderSuper calls) (inner.renderSuper other) := by
  unfold Scope.renderSuper
  rw [← similar.super]
  cases found : scope.super with
  | error error => exact Run.agree_fail error
  | ok block =>
      obtain ⟨has, alsoSimilar⟩ := similar.enter (Scope.placed_super found)
      exact invoke _ _ _ has alsoSimilar

end Similar

/-! ### Rendering -/

section Render

variable {form : Compiled} (interpreted : form.All Procedure.Interpreted)
variable {setting reset : Setting}
variable (filters : ∀ name count, form.Contains (.filter name count) →
  setting.environment.filters.get? name = reset.environment.filters.get? name)

include filters

/-- No instruction looks at anything that it does not name. -/
theorem Compiled.Contains.matches {op : Op} (contained : form.Contains op) {scope inner : Scope}
    (similar : form.Similar scope inner) {calls other : Calls}
    (invoke : Calls.InvokeSimilar form calls other) :
    op.Matches setting reset calls other scope inner := by
  cases op with
  | text | const | emit => trivial
  | lookup name => exact similar.resolve name contained
  | filter name count => exact filters name count contained
  | block name => exact similar.renderBlock_agree invoke name
  | super => exact similar.renderSuper_agree invoke

include interpreted

theorem Setting.invoke_similar (level : Nat) :
    Calls.InvokeSimilar form (setting.calls level) (reset.calls level) := by
  induction level with
  | zero =>
      intro _ _ _ _ _
      exact Run.agree_tooDeep
  | succ level ih =>
      intro procedure scope inner has similar
      obtain ⟨code, body⟩ := interpreted.of_has has
      change Run.Agree Eq (procedure.run setting (setting.calls level) scope)
        (procedure.run reset (reset.calls level) inner)
      simp only [Procedure.run, body]
      apply Code.run_agree_of_matches
      intro op member
      have contained : form.Contains op := ⟨procedure, code, has, body, member⟩
      exact contained.matches filters similar ih

variable {bindings fields : Dict Value}
variable (lookups : ∀ name, form.Contains (.lookup name) →
  bindings.resolve name = fields.resolve name)

include lookups

theorem Compiled.root_agree (level : Nat) (name title : Option String) :
    Run.Agree Eq
      ((setting.calls level).invoke form.root (.outside ⟨name, bindings, form.blocks⟩))
      ((reset.calls level).invoke form.root (.outside ⟨title, fields, form.blocks⟩)) :=
  Setting.invoke_similar interpreted filters level _ _ _ .root ⟨rfl, rfl, rfl, lookups⟩

end Render

theorem Data.Binds.ofData {data : Data} {bindings : Dict Value} (binds : data.Binds bindings)
    (name : Option String) (blocks : Blocks) :
    Context.ofData name data blocks = .ok ⟨name, bindings, blocks⟩ := by
  obtain ⟨value, converted, bound⟩ := binds
  unfold Context.ofData
  rw [converted]
  change (value.toVariables >>= _) = _
  rw [bound]
  rfl

/-- To look up a variable, it makes no difference whether it was left out or given as the empty
text. -/
theorem Dict.resolve_insert_missing {bindings : Dict Value} {absent : String}
    (none : bindings.get? absent = none) (name : String) :
    (bindings.insert absent .missing).resolve name = bindings.resolve name := by
  unfold Dict.resolve
  rw [Dict.get?_insert]
  split
  · rename_i same
    rw [same, none]
    rfl
  · rfl

/-- A template is compiled before its variables are looked at, so only what they resolve to can make
a difference. -/
theorem Engine.render_eq_of_resolve {engine : Engine} {limit : Nat} {template : Template}
    (interpreted : ∀ form after,
      engine.setting.compiledForm (engine.setting.calls limit) template engine.state =
        some (.ok form, after) → form.All Procedure.Interpreted)
    {bindings fields : Dict Value} (same : ∀ name, bindings.resolve name = fields.resolve name) :
    (engine.render limit template (.ok (.object bindings))).map (·.1) =
      (engine.render limit template (.ok (.object fields))).map (·.1) := by
  let calls := engine.setting.calls limit
  have results (given : Dict Value) :
      (engine.render limit template (.ok (.object given))).map (·.1) =
        (engine.setting.render calls template (.ok (.object given)) engine.state).map (·.1) :=
    Option.map_map ..
  rw [results, results, Setting.render_eq, Setting.render_eq]
  simp only [Data.toValue]
  cases compiled : engine.setting.compiledForm calls template engine.state with
  | none => rfl
  | some outcome =>
      obtain ⟨result, after⟩ := outcome
      cases result with
      | error error => rfl
      | ok form =>
          have agree : Run.Agree Eq (form.render calls template.name (.object bindings))
              (form.render calls template.name (.object fields)) := by
            apply Run.Agree.blame
            exact Compiled.root_agree (interpreted form after compiled) (fun _ _ _ => rfl)
              (fun name _ => same name) limit _ _
          exact agree.result_eq after after

/-- Rendering a form of instructions depends on the names that these mention. Two renders end with
the same output or the same error, or neither ends, when the variables that are looked up resolve to
the same values and the filters that are applied are the same. (The two zeros compare equal but are
not the same value: they are written differently.) Everything else may differ: further variables,
filters and loaders, the compiler, the name of the template, and what was done before. So a template
of instructions cannot tell a variable that was left out from one that is the empty text. -/
theorem renders_depend_on_names (engine other : Engine) (limit : Nat) {form : Compiled}
    (interpreted : form.All Procedure.Interpreted) {data further : Data}
    {bindings fields : Dict Value} (binds : data.Binds bindings) (alsoBinds : further.Binds fields)
    (lookups : ∀ name, form.Contains (.lookup name) → bindings.resolve name = fields.resolve name)
    (filters : ∀ name count, form.Contains (.filter name count) →
      engine.environment.filters.get? name = other.environment.filters.get? name)
    (name title : Option String) :
    (engine.renderForm limit form name data).map (·.1) =
      (other.renderForm limit form title further).map (·.1) ∧
    ∀ (template : Template) (given : Dict Value) (absent : String),
      (∀ kept after, engine.setting.compiledForm (engine.setting.calls limit) template engine.state =
        some (.ok kept, after) → kept.All Procedure.Interpreted) →
      given.get? absent = none →
        (engine.render limit template (.ok (.object given))).map (·.1) =
          (engine.render limit template
            (.ok (.object (given.insert absent (.string ""))))).map (·.1) := by
  constructor
  · rw [Engine.renderForm_of_ok (binds.ofData name), Engine.renderForm_of_ok (alsoBinds.ofData title),
      Option.map_map, Option.map_map]
    exact (Compiled.root_agree interpreted filters lookups (limit + 1) name title).result_eq _ _
  · intro template given absent compiled left
    apply Engine.render_eq_of_resolve compiled
    intro name
    exact (Dict.resolve_insert_missing left name).symm

/-- The instructions mention `x`, `y` and one filter. The second render has a further variable and a
further filter, is given `y` as the empty text, and runs under another name. -/
theorem renders_depend_on_names_unmentioned :
    let shout : Filter := ⟨fun value _ => .ok (.string (value.output ++ "!"))⟩
    let failing : Filter := ⟨fun _ _ => .error .stackUnderflow⟩
    let body : List Procedure := [⟨1, .code [.text "<", .super, .text ">"]⟩,
      ⟨2, .code [.lookup "y", .emit]⟩]
    let form : Compiled := ⟨⟨0, .code [.lookup "x", .filter "shout" 0, .emit, .block "body"]⟩,
      Dict.ofList [("body", body)]⟩
    let engine : Engine := ⟨⟨[], none, Dict.ofList [("shout", shout)], .assumeStale⟩, .empty,
      State.initial.keepCompiled 0 form⟩
    let other := Engine.new
      ⟨[], none, .ofList [("shout", shout), ("title", failing)], .assumeFresh⟩ .empty
    let bindings : Dict Value := Dict.ofList [("x", .string "a")]
    let fields : Dict Value := .ofList [("x", .string "a"), ("y", .string ""), ("z", .null)]
    let template : Template := ⟨0, "page", .ofText ""⟩
    (∀ name, form.Contains (.lookup name) → bindings.resolve name = fields.resolve name) ∧
    (∀ name count, form.Contains (.filter name count) →
      engine.environment.filters.get? name = other.environment.filters.get? name) ∧
    (engine.renderForm 3 form none (.ok (.object bindings))).map (·.1) = some (.ok "a!<>") ∧
    (other.renderForm 3 form (some "page") (.ok (.object fields))).map (·.1) =
      some (.ok "a!<>") ∧
    (engine.render 3 template (.ok (.object bindings))).map (·.1) =
      (engine.render 3 template (.ok (.object (bindings.insert "y" (.string ""))))).map (·.1) := by
  intro shout failing body form engine other bindings fields template
  have stack (name : String) : form.blocks.stack name = if name = "body" then body else [] := by
    change ((Dict.insert ∅ "body" body).get? name).getD [] = _
    rw [Dict.get?_insert]
    split <;> rfl
  have procedures : ∀ procedure, form.Has procedure → procedure = form.root ∨ procedure ∈ body := by
    rintro procedure (_ | stands)
    · exact Or.inl rfl
    · rw [stack] at stands
      split at stands
      · exact Or.inr stands
      · cases stands
  have interpreted : form.All Procedure.Interpreted := by
    refine ⟨⟨_, rfl⟩, fun name procedure member => ?_⟩
    rcases procedures procedure (.body member) with rfl | member
    · exact ⟨_, rfl⟩
    · simp only [body, List.mem_cons, List.not_mem_nil, or_false] at member
      rcases member with rfl | rfl <;> exact ⟨_, rfl⟩
  have mentioned : ∀ op, form.Contains op →
      op ∈ ([.lookup "x", .filter "shout" 0, .emit, .block "body", .text "<", .super, .text ">",
        .lookup "y"] : Code) := by
    rintro op ⟨procedure, code, has, same, member⟩
    rcases procedures procedure has with rfl | stands
    · cases same
      simp only [List.mem_cons, List.not_mem_nil, or_false] at member ⊢
      tauto
    · simp only [body, List.mem_cons, List.not_mem_nil, or_false] at stands
      rcases stands with rfl | rfl <;> cases same <;>
      · simp only [List.mem_cons, List.not_mem_nil, or_false] at member ⊢
        tauto
  have lookups : ∀ name, form.Contains (.lookup name) →
      bindings.resolve name = fields.resolve name := by
    intro name contained
    have named := mentioned _ contained
    simp only [List.mem_cons, Op.lookup.injEq, reduceCtorEq, List.not_mem_nil, or_false,
      false_or] at named
    rcases named with rfl | rfl <;> rfl
  have filters : ∀ name count, form.Contains (.filter name count) →
      engine.environment.filters.get? name = other.environment.filters.get? name := by
    intro name count contained
    have named := mentioned _ contained
    simp only [List.mem_cons, Op.filter.injEq, reduceCtorEq, List.not_mem_nil, or_false,
      false_or] at named
    have found : other.environment.filters.get? "shout" = some shout := Dict.get?_ofList _ _
    rw [named.1, found]
    rfl
  have binds : Data.Binds (.ok (.object bindings)) bindings := ⟨_, rfl, rfl⟩
  have alsoBinds : Data.Binds (.ok (.object fields)) fields := ⟨_, rfl, rfl⟩
  obtain ⟨same, left⟩ := renders_depend_on_names engine other 3 interpreted binds alsoBinds lookups
    filters none (some "page")
  have rendered : (engine.renderForm 3 form none (.ok (.object bindings))).map (·.1) =
      some (.ok "a!<>") := by rfl
  refine ⟨lookups, filters, rendered, same.symm.trans rendered, left template bindings "y" ?_ rfl⟩
  intro kept after found
  have known : engine.state.compiledForm? template.id = some form := rfl
  rw [Setting.compiledForm_of_some known] at found
  cases found
  exact interpreted

end Stencil
