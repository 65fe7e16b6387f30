import Stencil.Proofs.Attempts
import Stencil.Proofs.Sites
import Stencil.Proofs.Underflow

set_option autoImplicit false

/-
Longer chains of templates. A longer chain adds blocks, and puts further bodies behind those that a
block has. Rendering reaches a body by its place in the stack, and no place changes, so what was
added is noticed only where a body was looked for and not found.
-/

namespace Stencil

/-! ### Dispatch that finds no body -/

/-- The next instruction asks for a body that is not there, which fails with the error. -/
inductive Site.Unserved : Site → Error → Prop
  /-- The block is not known. -/
  | block {name : String} {rest : Code} {machine : Machine} {scope : Scope} {error : Error}
      (fails : scope.context.block name = .error error) :
      Unserved (.interpret (.block name :: rest) machine scope) error
  /-- There is no body behind that of the current block. -/
  | super {rest : Code} {machine : Machine} {scope : Scope} {block : Block} {error : Error}
      (inBlock : scope.current = some block) (fails : scope.context.super block = .error error) :
      Unserved (.interpret (.super :: rest) machine scope) error

/-- From the site, in the state, rendering comes to an instruction that asks for a body which is not
there, and this fails with the error. -/
def Setting.DispatchFails (setting : Setting) (site : Site) (state : State) (error : Error) : Prop :=
  ∃ last, Relation.ReflTransGen setting.ComesTo (site, state) last ∧ last.1.Unserved error

/-- Wherever rendering comes to from the site, the bodies that it asks for are there. -/
def Setting.Served (setting : Setting) (site : Site) (state : State) : Prop :=
  ∀ error, ¬ setting.DispatchFails site state error

/-- The rendering of a form with data fails in its dispatch to blocks, with the error. -/
def Engine.FailsInDispatch (engine : Engine) (form : Compiled) (name : Option String) (data : Data)
    (error : Error) : Prop :=
  ∃ context, Context.ofData name data form.blocks = .ok context ∧
    engine.setting.DispatchFails (.start form.root (.outside context)) engine.state error

theorem Site.Unserved.error_eq {site : Site} {error : Error} (unserved : site.Unserved error) :
    ∃ block, error = .unknownBlock block ∨ error = .noSuperBlock block := by
  cases unserved with
  | @block name rest machine scope _ fails =>
      rw [Context.block_eq] at fails
      split at fails
      · cases fails
      · exact ⟨name, Or.inl (Except.error.inj fails).symm⟩
  | @super rest machine scope block _ inBlock fails =>
      refine ⟨block.name, Or.inr ?_⟩
      unfold Context.super at fails
      split at fails
      · exact (Except.error.inj fails).symm
      · split at fails
        · split at fails
          · cases fails
          · exact (Except.error.inj fails).symm
        · exact (Except.error.inj fails).symm

theorem Site.Unserved.fails {site : Site} {error : Error} (unserved : site.Unserved error)
    (setting : Setting) (state : State) : site.Fails setting state error := by
  cases unserved with
  | @block name rest machine scope _ fails =>
      have failed : setting.Fails (fun calls => scope.renderBlock calls name) state error := by
        refine ⟨state, 0, ?_⟩
        unfold Scope.renderBlock
        rw [fails]
        rfl
      exact failed.bind.bind
  | @super rest machine scope block _ inBlock fails =>
      have nothing : scope.super = .error error := by
        rw [Scope.super, inBlock]
        exact fails
      have failed : setting.Fails (fun calls => scope.renderSuper calls) state error := by
        refine ⟨state, 0, ?_⟩
        change scope.renderSuper _ state = _
        rw [Scope.renderSuper_of_error nothing]
        rfl
      exact failed.bind.bind

section Served

variable {setting : Setting} {site further : Site} {state after : State} {error : Error}

theorem Setting.DispatchFails.error_eq (failed : setting.DispatchFails site state error) :
    ∃ block, error = .unknownBlock block ∨ error = .noSuperBlock block := by
  obtain ⟨_, _, unserved⟩ := failed
  exact unserved.error_eq

/-- Nothing else fails, then: the error of dispatch is what rendering fails with. -/
theorem Setting.DispatchFails.fails (failed : setting.DispatchFails site state error) :
    site.Fails setting state error := by
  obtain ⟨last, path, unserved⟩ := failed
  exact Setting.fails_of_comesTo path (unserved.fails setting last.2)

theorem Setting.Served.comesTo (served : setting.Served site state)
    (comes : setting.ComesTo (site, state) (further, after)) : setting.Served further after := by
  rintro error ⟨last, path, unserved⟩
  exact served error ⟨last, .head comes path, unserved⟩

/-- Rendering that ends with an output, or with an error of something else, was served. -/
theorem Setting.served_of_ends {procedure : Procedure} {scope : Scope}
    {result : Except Error String}
    (ends : setting.Ends (fun calls => calls.invoke procedure scope) state result after)
    (elsewhere : ∀ error, result = .error error →
      ¬ setting.DispatchFails (.start procedure scope) state error) :
    setting.Served (.start procedure scope) state := by
  intro error failed
  obtain ⟨final, alsoEnds⟩ := failed.fails
  exact elsewhere error (ends.unique (setting.invoke_deepens procedure scope) alsoEnds) failed

end Served

/-! ### Longer stacks -/

/-- There may be more blocks, and further bodies behind those that a block has. -/
def Blocks.GrowsTo (blocks longer : Blocks) : Prop :=
  ∀ name, blocks.stack name <+: longer.stack name

/-- Forms with the same root, where the stacks of the second may be longer. -/
structure Compiled.GrowsTo (form longer : Compiled) : Prop where
  root : form.root = longer.root
  blocks : form.blocks.GrowsTo longer.blocks

/-- Scopes with the same variables and the same current body, where the stacks of the second may be
longer. -/
structure Scope.GrowsTo (scope other : Scope) : Prop where
  bindings : scope.context.bindings = other.context.bindings
  current : scope.current = other.current
  blocks : scope.context.blocks.GrowsTo other.context.blocks
  interpreted : ∀ name, ∀ procedure ∈ scope.context.blocks.stack name, procedure.Interpreted
  placed : scope.Placed

/-- A body keeps its depth. -/
theorem Blocks.GrowsTo.getElem? {blocks longer : Blocks} (grows : blocks.GrowsTo longer)
    {name : String} {depth : Nat} {procedure : Procedure}
    (stands : (blocks.stack name)[depth]? = some procedure) :
    (longer.stack name)[depth]? = some procedure := by
  obtain ⟨further, same⟩ := grows name
  have inside := (List.getElem?_eq_some_iff.1 stands).1
  rw [← same, List.getElem?_append_left inside, stands]

section Dispatch

variable {scope other : Scope} (grows : scope.GrowsTo other)

include grows

theorem Scope.GrowsTo.inside {block : Block} (placed : Scope.Placed (.inside scope.context block)) :
    Scope.GrowsTo (.inside scope.context block) (.inside other.context block) :=
  ⟨grows.bindings, rfl, grows.blocks, grows.interpreted, placed⟩

/-- A body to which rendering goes is made of instructions. -/
theorem Scope.GrowsTo.body {block : Block} (placed : Scope.Placed (.inside scope.context block)) :
    block.procedure.Interpreted :=
  grows.interpreted block.name block.procedure (List.mem_of_getElem? (placed.inStack rfl))

theorem Scope.GrowsTo.block {name : String} {block : Block}
    (found : scope.context.block name = .ok block) : other.context.block name = .ok block := by
  obtain ⟨further, same⟩ := grows.blocks name
  rw [Context.block_eq] at found ⊢
  cases known : scope.context.blocks.stack name with
  | nil =>
      rw [known] at found
      cases found
  | cons procedure rest =>
      rw [known] at found same
      rw [← same]
      exact found

/-- The current body stands in both contexts at the same depth, so `super` accepts it in both. -/
theorem Scope.GrowsTo.super {block : Block} (found : scope.super = .ok block) :
    other.super = .ok block := by
  unfold Scope.super at found ⊢
  rw [← grows.current]
  cases inBlock : scope.current with
  | none =>
      rw [inBlock] at found
      cases found
  | some current =>
      rw [inBlock] at found
      have stands := grows.placed.inStack inBlock
      change scope.context.super current = .ok block at found
      change other.context.super current = .ok block
      rw [Context.super_eq stands] at found
      rw [Context.super_eq (grows.blocks.getElem? stands)]
      split at found
      · rename_i procedure behind
        rw [grows.blocks.getElem? behind]
        exact found
      · cases found

end Dispatch

/-! ### Runs in longer stacks -/

/-- On the level, interpreted procedures do in longer stacks what they do in shorter ones, where these
serve them. -/
def Setting.Unnoticed (setting : Setting) (level : Nat) : Prop :=
  ∀ (procedure : Procedure) (scope other : Scope) (state : State), procedure.Interpreted →
    scope.GrowsTo other → setting.Served (.start procedure scope) state →
      (setting.calls level).invoke procedure scope state =
        (setting.calls level).invoke procedure other state

theorem Run.bind_of_same {α β : Type} {run other : Run α} {state : State} (next : α → Run β)
    (same : run state = other state) : (run >>= next) state = (other >>= next) state := by
  rw [Run.bind_eq, Run.bind_eq]
  unfold Run.bind
  rw [same]

section Run

variable {setting : Setting} {level : Nat} (unnoticed : setting.Unnoticed level)
variable {scope other : Scope} (grows : scope.GrowsTo other)
variable {rest : Code} {machine : Machine} {state : State}

include unnoticed grows

theorem Scope.GrowsTo.renderBlock_eq {name : String}
    (served : setting.Served (.interpret (.block name :: rest) machine scope) state) :
    scope.renderBlock (setting.calls level) name state =
      other.renderBlock (setting.calls level) name state := by
  unfold Scope.renderBlock
  cases found : scope.context.block name with
  | error error => exact absurd ⟨_, .refl, .block found⟩ (served error)
  | ok block =>
      rw [grows.block found]
      have placed := Context.placed_block found
      exact unnoticed _ _ _ state (grows.body placed) (grows.inside placed)
        (served.comesTo (.callBlock found rest machine state))

theorem Scope.GrowsTo.renderSuper_eq
    (served : setting.Served (.interpret (.super :: rest) machine scope) state) :
    scope.renderSuper (setting.calls level) state =
      other.renderSuper (setting.calls level) state := by
  cases inBlock : scope.current with
  | none =>
      have alsoOutside := grows.current.symm.trans inBlock
      have fails : scope.super = .error .superOutsideBlock := by simp only [Scope.super, inBlock]
      have alsoFails : other.super = .error .superOutsideBlock := by
        simp only [Scope.super, alsoOutside]
      rw [Scope.renderSuper_of_error fails, Scope.renderSuper_of_error alsoFails]
  | some current =>
      cases behind : scope.context.super current with
      | error error => exact absurd ⟨_, .refl, .super inBlock behind⟩ (served error)
      | ok block =>
          have found : scope.super = .ok block := by
            rw [Scope.super, inBlock]
            exact behind
          have placed := Context.placed_super behind
          unfold Scope.renderSuper
          rw [found, grows.super found]
          exact unnoticed _ _ _ state (grows.body placed) (grows.inside placed)
            (served.comesTo (.callSuper found rest machine state))

/-- Only dispatch looks at the stacks. -/
theorem Op.run_grown {op : Op}
    (served : setting.Served (.interpret (op :: rest) machine scope) state) :
    op.run setting (setting.calls level) scope machine state =
      op.run setting (setting.calls level) other machine state := by
  cases op with
  | text | const | filter | emit => rfl
  | lookup name =>
      have same : scope.context.lookup name = other.context.lookup name := by
        unfold Context.lookup
        rw [grows.bindings]
      simp only [Op.run, same]
  | block name => exact Run.bind_of_same _ (grows.renderBlock_eq unnoticed served)
  | super => exact Run.bind_of_same _ (grows.renderSuper_eq unnoticed served)

theorem Code.runFrom_grown {code : Code}
    (served : setting.Served (.interpret code machine scope) state) :
    Code.runFrom setting (setting.calls level) scope machine code state =
      Code.runFrom setting (setting.calls level) other machine code state := by
  induction code generalizing machine state with
  | nil => rfl
  | cons op rest ih =>
      let calls := setting.calls level
      calc (op.run setting calls scope machine >>= fun further =>
            Code.runFrom setting calls scope further rest) state
        _ = (op.run setting calls scope machine >>= fun further =>
            Code.runFrom setting calls other further rest) state := by
          apply Run.bind_congr
          intro further middle reached
          exact ih (served.comesTo (.step ⟨level, reached⟩ rest))
        _ = (op.run setting calls other machine >>= fun further =>
            Code.runFrom setting calls other further rest) state :=
          Run.bind_of_same _ (Op.run_grown unnoticed grows served)

end Run

/-- One level after the other. -/
theorem Setting.unnoticed (setting : Setting) (level : Nat) : setting.Unnoticed level := by
  induction level with
  | zero =>
      intro _ _ _ _ _ _ _
      rfl
  | succ level ih =>
      rintro procedure scope other state ⟨code, body⟩ grows served
      change procedure.run setting (setting.calls level) scope state =
        procedure.run setting (setting.calls level) other state
      unfold Procedure.run
      rw [body]
      have interpreted := served.comesTo (.interpreted body scope state)
      exact Run.bind_of_same _ (Code.runFrom_grown ih grows interpreted)

/-! ### Rendering in longer chains -/

/-- The variables do not depend on the blocks. -/
theorem Context.ofData_cases (name : Option String) (data : Data) :
    (∃ error, ∀ blocks, Context.ofData name data blocks = .error error) ∨
      ∃ bindings, ∀ blocks, Context.ofData name data blocks = .ok ⟨name, bindings, blocks⟩ := by
  unfold Context.ofData
  cases data.toValue with
  | error error => exact Or.inl ⟨error, fun _ => rfl⟩
  | ok value =>
      cases bound : value.toVariables with
      | error error =>
          refine Or.inl ⟨error, fun _ => ?_⟩
          change (value.toVariables >>= _) = _
          rw [bound]
          rfl
      | ok bindings =>
          refine Or.inr ⟨bindings, fun _ => ?_⟩
          change (value.toVariables >>= _) = _
          rw [bound]
          rfl

section Render

variable {form longer : Compiled} {name : Option String} {data : Data}

/-- The root is rendered as on the level above that of what it calls. -/
theorem Engine.renderForm_of_ok {bindings : Dict Value}
    (given : ∀ blocks, Context.ofData name data blocks = .ok ⟨name, bindings, blocks⟩)
    (engine : Engine) (limit : Nat) (form : Compiled) :
    engine.renderForm limit form name data =
      ((engine.setting.calls (limit + 1)).invoke form.root (.outside ⟨name, bindings, form.blocks⟩)
        engine.state).map fun outcome => (outcome.1, { engine with state := outcome.2 }) := by
  change Option.map _ ((Run.ofExcept (Context.ofData name data form.blocks) >>= _) _) = _
  rw [given]
  rfl

theorem Engine.renderForm_of_error {error : Error}
    (refused : ∀ blocks, Context.ofData name data blocks = .error error)
    (engine : Engine) (limit : Nat) (form : Compiled) :
    engine.renderForm limit form name data = some (.error error, engine) := by
  change Option.map _ ((Run.ofExcept (Context.ofData name data form.blocks) >>= _) _) = _
  rw [refused]
  rfl

/-- Rendering that ends otherwise than with an error of dispatch ends the same in longer stacks. -/
theorem Engine.renderForm_grown (engine : Engine) {limit : Nat}
    (interpreted : form.All Procedure.Interpreted) (grows : form.GrowsTo longer)
    {result : Except Error String} {after : Engine}
    (ended : engine.renderForm limit form name data = some (result, after))
    (elsewhere : ∀ error, result = .error error → ¬ engine.FailsInDispatch form name data error) :
    engine.renderForm limit longer name data = some (result, after) := by
  rcases Context.ofData_cases name data with ⟨error, refused⟩ | ⟨bindings, given⟩
  · rw [Engine.renderForm_of_error refused] at ended ⊢
    exact ended
  · rw [Engine.renderForm_of_ok given] at ended ⊢
    obtain ⟨⟨_, final⟩, reached, same⟩ := Option.map_eq_some_iff.1 ended
    cases same
    have served : engine.setting.Served (.start form.root (.outside ⟨name, bindings, form.blocks⟩))
        engine.state := by
      apply Setting.served_of_ends ⟨limit + 1, reached⟩
      intro error failed dispatch
      exact elsewhere error failed ⟨_, given form.blocks, dispatch⟩
    have outside : Scope.GrowsTo (.outside ⟨name, bindings, form.blocks⟩)
        (.outside ⟨name, bindings, longer.blocks⟩) :=
      ⟨rfl, rfl, grows.blocks, interpreted.bodies, Scope.Arises.placed (.outside _)⟩
    rw [← grows.root, ← engine.setting.unnoticed (limit + 1) form.root _ _ engine.state
      interpreted.root outside served]
    exact ended

/-- Rendering that comes to a body which is not there fails, within some depth, with that error. -/
theorem Engine.FailsInDispatch.fails {engine : Engine} {error : Error}
    (failed : engine.FailsInDispatch form name data error) :
    ∃ limit after, engine.renderForm limit form name data = some (.error error, after) := by
  obtain ⟨context, made, dispatch⟩ := failed
  rcases Context.ofData_cases name data with ⟨error, refused⟩ | ⟨bindings, given⟩
  · rw [refused] at made
    cases made
  · rw [given] at made
    cases made
    obtain ⟨after, level, ended⟩ := dispatch.fails
    refine ⟨level, { engine with state := after }, ?_⟩
    have deeper := engine.setting.invoke_deeper (Nat.le_succ level) _ _ _ _ ended
    rw [Engine.renderForm_of_ok given, deeper]
    rfl

end Render

/-- Interpreted procedures never notice that a chain has grown, by further blocks or by further bodies
behind those of a block. What they put out, they put out in the longer chain as well, and they fail
there with the same error, unless it is one of dispatch: that of a block which is not known, or of
a body with no further one behind it. -/
theorem longer_stacks_render_same (engine : Engine) (limit : Nat) {form longer : Compiled}
    (interpreted : form.All Procedure.Interpreted) (grows : form.GrowsTo longer)
    (name : Option String) (data : Data) :
    (∀ output after,
      engine.renderForm limit form name data = some (.ok output, after) →
        engine.renderForm limit longer name data = some (.ok output, after)) ∧
    (∀ error after,
      engine.renderForm limit form name data = some (.error error, after) →
        ¬ engine.FailsInDispatch form name data error →
          engine.renderForm limit longer name data = some (.error error, after)) ∧
    ∀ error, engine.FailsInDispatch form name data error →
      (∃ block, error = .unknownBlock block ∨ error = .noSuperBlock block) ∧
      ∃ further after, engine.renderForm further form name data = some (.error error, after) := by
  refine ⟨?_, ?_, ?_⟩
  · intro output after ended
    apply engine.renderForm_grown interpreted grows ended
    intro error impossible
    cases impossible
  · intro error after ended elsewhere
    apply engine.renderForm_grown interpreted grows ended
    rintro _ ⟨⟩
    exact elsewhere
  · intro error failed
    have fails := failed.fails
    obtain ⟨_, _, dispatch⟩ := failed
    exact ⟨dispatch.error_eq, fails⟩

/-- The chain of the page gets a further body and a foot. A page that is put out, and one whose filter
fails as `super` might, end the same. The one that asks for the foot has to have the longer chain. -/
theorem longer_stacks_render_same_footed :
    let orphan : Error := .ofKind .noSuperBlock
    let failing : Filter := ⟨fun _ _ => .error orphan⟩
    let engine := Engine.new ⟨[], none, Dict.ofList [("failing", failing)], .assumeStale⟩ .empty
    let body : List Procedure := [⟨1, .code [.text "<", .super, .text ">"]⟩,
      ⟨2, .code [.lookup "x", .emit]⟩]
    let blocks : Blocks := Dict.ofList [("body", body)]
    let longer : Blocks := Dict.ofList [("body", body ++ [⟨3, .code [.text "never"]⟩]),
      ("foot", [⟨4, .code [.block "body"]⟩])]
    let page : Procedure := ⟨0, .code [.block "body"]⟩
    let broken : Procedure := ⟨0, .code [.block "body", .lookup "x", .filter "failing" 0]⟩
    let footed : Procedure := ⟨0, .code [.block "foot"]⟩
    let data : Data := .ok (.object (Dict.ofList [("x", .string "y")]))
    (∀ root, Compiled.GrowsTo ⟨root, blocks⟩ ⟨root, longer⟩) ∧
    engine.renderForm 3 ⟨page, longer⟩ none data = some (.ok "<y>", engine) ∧
    (engine.renderForm 3 ⟨broken, longer⟩ none data).map (·.1) = some (.error orphan) ∧
    engine.renderForm 3 ⟨footed, blocks⟩ none data = some (.error (.unknownBlock "foot"), engine) ∧
    engine.renderForm 3 ⟨footed, longer⟩ none data = some (.ok "<y>", engine) := by
  intro orphan failing engine body blocks longer page broken footed data
  have stack (name : String) : blocks.stack name = if name = "body" then body else [] := by
    change ((Dict.insert ∅ "body" body).get? name).getD [] = _
    rw [Dict.get?_insert]
    split <;> rfl
  have bodies : ∀ name, ∀ procedure ∈ blocks.stack name, procedure.Interpreted := by
    intro name procedure member
    rw [stack] at member
    split at member
    · simp only [body, List.mem_cons, List.not_mem_nil, or_false] at member
      rcases member with rfl | rfl <;> exact ⟨_, rfl⟩
    · cases member
  have ordered : "body" < "foot" := by decide
  have spelled : longer = ⟨.cons "body" (Entries.after_none "body")
      (body ++ [⟨3, .code [.text "never"]⟩])
      (.cons "foot" (Entries.after_some ordered) [⟨4, .code [.block "body"]⟩] .nil)⟩ :=
    Dict.ofList_pair ordered _ _
  have grows (root : Procedure) : Compiled.GrowsTo ⟨root, blocks⟩ ⟨root, longer⟩ := by
    refine ⟨rfl, fun name => ?_⟩
    rw [stack, spelled]
    split
    · subst name
      exact ⟨_, rfl⟩
    · exact List.nil_prefix
  obtain ⟨outputs, -, -⟩ :=
    longer_stacks_render_same engine 3 ⟨⟨_, rfl⟩, bodies⟩ (grows page) none data
  obtain ⟨-, errors, dispatched⟩ :=
    longer_stacks_render_same engine 3 ⟨⟨_, rfl⟩, bodies⟩ (grows broken) none data
  have elsewhere : ¬ engine.FailsInDispatch ⟨broken, blocks⟩ none data orphan := by
    intro dispatch
    obtain ⟨⟨name, other | other⟩, -⟩ := dispatched orphan dispatch
    · cases congrArg (fun error => error.detail) other
    · cases congrArg (fun error => error.detail) other
  have failed := errors orphan _ (by rfl) elsewhere
  exact ⟨grows, outputs _ _ (by rfl), by rw [failed]; rfl, by rfl, by rw [spelled]; rfl⟩

end Stencil
