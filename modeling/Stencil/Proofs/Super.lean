import Stencil.Proofs.Simulation

set_option autoImplicit false

/-
The block that is being rendered. A scope gets its current block from its own context, either as
the most derived body of a stack or as the body behind the one before, so the current block always
stands where it claims to stand. What `super` does follows from that.
-/

namespace Stencil

/-- The bodies of a block, of which there are none when the block is not known. -/
def Blocks.stack (blocks : Blocks) (name : String) : List Procedure := (blocks.get? name).getD []

/-- The scopes that come up in a context: the one outside of blocks, and with each of them those
to which a block or `super` leads. -/
inductive Scope.Arises : Scope → Prop
  | outside (context : Context) : Arises (.outside context)
  | block {scope : Scope} {name : String} {block : Block} (before : Arises scope)
      (found : scope.context.block name = .ok block) : Arises (.inside scope.context block)
  | super {scope : Scope} {block : Block} (before : Arises scope)
      (found : scope.super = .ok block) : Arises (.inside scope.context block)

theorem Scope.closed_arises : Scope.Closed Scope.Arises := ⟨.outside, .block, .super⟩

/-- The current block of a scope, if there is one, stands in the context at its depth. -/
def Scope.Placed (scope : Scope) : Prop :=
  ∀ block, scope.current = some block →
    ∃ stack, scope.context.blocks.get? block.name = some stack ∧
      stack[block.depth]? = some block.procedure

/-- What `super` does in a scope, up to what the body does that it renders. -/
structure Scope.WalksItsStack (scope : Scope) : Prop where
  /-- It is an invalid operation outside of blocks, and nowhere else. -/
  invalid : (∃ error, scope.super = .error error ∧ error.kind = .invalidOperation) ↔
    scope.current = none
  /-- It finds no further body behind the last one of a stack, and nowhere else. -/
  exhausted : (∃ error, scope.super = .error error ∧ error.kind = .noSuperBlock) ↔
    ∃ block stack, scope.current = some block ∧
      scope.context.blocks.get? block.name = some stack ∧ block.depth + 1 = stack.length
  /-- When it does not find a body, nothing is rendered. -/
  failed : ∀ error, scope.super = .error error → ∀ calls, scope.renderSuper calls = .fail error
  /-- From any other body it goes to the one at the next depth of the same stack. -/
  next : ∀ block stack, scope.current = some block →
    scope.context.blocks.get? block.name = some stack → block.depth + 1 ≠ stack.length →
      ∃ procedure, stack[block.depth + 1]? = some procedure ∧
        ∀ calls, scope.renderSuper calls =
          calls.invoke procedure (.inside scope.context ⟨block.name, block.depth + 1, procedure⟩)

theorem Scope.Placed.inStack {scope : Scope} (placed : scope.Placed) {block : Block}
    (inBlock : scope.current = some block) :
    (scope.context.blocks.stack block.name)[block.depth]? = some block.procedure := by
  obtain ⟨stack, known, stands⟩ := placed block inBlock
  rw [Blocks.stack, known, Option.getD_some, stands]

theorem Procedure.same_self (procedure : Procedure) : procedure.same procedure = true :=
  beq_self_eq_true procedure.id

theorem Context.placed_block {context : Context} {name : String} {block : Block}
    (found : context.block name = .ok block) : Scope.Placed (.inside context block) := by
  intro current same
  obtain rfl : block = current := Option.some.inj same
  unfold Context.block at found
  split at found
  · rename_i procedure rest known
    obtain rfl := Except.ok.inj found
    exact ⟨procedure :: rest, known, rfl⟩
  · cases found

theorem Context.placed_super {context : Context} {before block : Block}
    (found : context.super before = .ok block) : Scope.Placed (.inside context block) := by
  intro current same
  obtain rfl : block = current := Option.some.inj same
  unfold Context.super at found
  split at found
  · cases found
  · rename_i stack known
    split at found
    · split at found
      · rename_i procedure behind
        obtain rfl := Except.ok.inj found
        exact ⟨stack, known, behind⟩
      · cases found
    · cases found

theorem Context.first_of_block {context : Context} {name : String} {block : Block}
    (found : context.block name = .ok block) : block.name = name ∧ block.depth = 0 := by
  unfold Context.block at found
  split at found
  · cases found
    exact ⟨rfl, rfl⟩
  · cases found

theorem Context.next_of_super {context : Context} {block next : Block}
    (found : context.super block = .ok next) :
    next.name = block.name ∧ next.depth = block.depth + 1 := by
  unfold Context.super at found
  split at found
  · cases found
  · split at found
    · split at found
      · cases found
        exact ⟨rfl, rfl⟩
      · cases found
    · cases found

theorem Scope.placed_super {scope : Scope} {block : Block} (found : scope.super = .ok block) :
    Scope.Placed (.inside scope.context block) := by
  unfold Scope.super at found
  split at found
  · cases found
  · exact Context.placed_super found

/-- The invariant of the current block. -/
theorem Scope.Arises.placed {scope : Scope} (arises : scope.Arises) : scope.Placed := by
  induction arises with
  | outside context =>
      intro block impossible
      cases impossible
  | block _ found => exact Context.placed_block found
  | super _ found => exact Scope.placed_super found

theorem Blocks.stack_of_get? {blocks : Blocks} {name : String} {stack : List Procedure}
    (known : blocks.get? name = some stack) : blocks.stack name = stack := by
  rw [Blocks.stack, known, Option.getD_some]

/-- Of the blocks that have bodies there are finitely many. -/
theorem Blocks.exists_bound (blocks : Blocks) (measure : String → Nat) :
    ∃ bound, ∀ name, blocks.stack name ≠ [] → measure name ≤ bound := by
  refine ⟨(blocks.keys.map measure).max?.getD 0, ?_⟩
  intro name bodies
  have known : name ∈ blocks.keys := by
    rw [Dict.mem_keys_iff, Dict.contains, Option.isSome_iff_ne_none]
    intro unknown
    rw [Blocks.stack, unknown] at bodies
    exact bodies rfl
  exact List.le_max?_getD_of_mem (List.mem_map_of_mem known)

/-- The bodies of a block are no more than in the longest stack. -/
theorem Blocks.bounded (blocks : Blocks) :
    ∃ longest, ∀ name, (blocks.stack name).length ≤ longest := by
  obtain ⟨longest, lengths⟩ := blocks.exists_bound fun name => (blocks.stack name).length
  refine ⟨longest, ?_⟩
  intro name
  by_cases bodies : blocks.stack name = []
  · rw [bodies]
    exact Nat.zero_le longest
  · exact lengths name bodies

theorem Context.block_eq (context : Context) (name : String) :
    context.block name =
      match context.blocks.stack name with
      | procedure :: _ => .ok ⟨name, 0, procedure⟩
      | [] => .error (.unknownBlock name) := by
  unfold Context.block Blocks.stack
  cases context.blocks.get? name with
  | none => rfl
  | some stack => cases stack <;> rfl

/-- The check of `super`, and behind it the next body, both in the context's own stack. -/
theorem Context.super_eq_ite (context : Context) (block : Block) :
    context.super block =
      if ((context.blocks.stack block.name)[block.depth]?).any (·.same block.procedure) then
        match (context.blocks.stack block.name)[block.depth + 1]? with
        | some procedure => .ok ⟨block.name, block.depth + 1, procedure⟩
        | none => .error (.noSuperBlock block.name)
      else .error (.noSuperBlock block.name) := by
  unfold Context.super Blocks.stack
  cases context.blocks.get? block.name with
  | none => exact (if_neg Bool.false_ne_true).symm
  | some stack => rfl

/-- A body that stands in the context passes the check of `super`, which leaves only the question
whether another body follows. -/
theorem Context.super_eq {context : Context} {block : Block}
    (stands : (context.blocks.stack block.name)[block.depth]? = some block.procedure) :
    context.super block =
      match (context.blocks.stack block.name)[block.depth + 1]? with
      | some procedure => .ok ⟨block.name, block.depth + 1, procedure⟩
      | none => .error (.noSuperBlock block.name) := by
  rw [Context.super_eq_ite, stands, Option.any_some, Procedure.same_self]
  exact if_pos rfl

theorem Scope.renderSuper_of_error {scope : Scope} {error : Error}
    (failed : scope.super = .error error) (calls : Calls) :
    scope.renderSuper calls = .fail error := by
  simp only [Scope.renderSuper, failed]
  rfl

theorem Scope.walksItsStack_of_outside {scope : Scope} (outside : scope.current = none) :
    scope.WalksItsStack := by
  have fails : scope.super = .error .superOutsideBlock := by
    simp only [Scope.super, outside]
  constructor
  · exact ⟨fun _ => outside, fun _ => ⟨_, fails, rfl⟩⟩
  · constructor
    · intro ⟨error, failed, kind⟩
      rw [fails] at failed
      cases failed
      cases kind
    · intro ⟨block, stack, impossible, _⟩
      rw [outside] at impossible
      cases impossible
  · intro error failed calls
    exact Scope.renderSuper_of_error failed calls
  · intro block stack impossible
    rw [outside] at impossible
    cases impossible

/-- Inside a block `super` looks at the stack that the block stands in. -/
theorem Scope.Placed.super_eq {scope : Scope} (placed : scope.Placed) {block : Block}
    (inBlock : scope.current = some block) {stack : List Procedure}
    (known : scope.context.blocks.get? block.name = some stack) :
    scope.super =
      match stack[block.depth + 1]? with
      | some procedure => .ok ⟨block.name, block.depth + 1, procedure⟩
      | none => .error (.noSuperBlock block.name) := by
  have found := Context.super_eq (placed.inStack inBlock)
  rw [Blocks.stack_of_get? known] at found
  rw [← found]
  simp only [Scope.super, inBlock]

theorem Scope.Placed.walksItsStack_of_inside {scope : Scope} (placed : scope.Placed)
    {block : Block} (inBlock : scope.current = some block) : scope.WalksItsStack := by
  obtain ⟨stack, known, stands⟩ := placed block inBlock
  have inside : block.depth < stack.length := (List.getElem?_eq_some_iff.1 stands).1
  have moves := placed.super_eq inBlock known
  constructor
  · constructor
    · intro ⟨error, failed, kind⟩
      rw [moves] at failed
      split at failed
      · cases failed
      · cases failed
        cases kind
    · intro impossible
      rw [inBlock] at impossible
      cases impossible
  · constructor
    · intro ⟨error, failed, _⟩
      refine ⟨block, stack, inBlock, known, ?_⟩
      rw [moves] at failed
      split at failed
      · cases failed
      · rename_i behind
        have last := List.getElem?_eq_none_iff.1 behind
        omega
    · intro ⟨other, others, same, alsoKnown, last⟩
      obtain rfl : block = other := Option.some.inj (inBlock.symm.trans same)
      obtain rfl : stack = others := Option.some.inj (known.symm.trans alsoKnown)
      refine ⟨.noSuperBlock block.name, ?_, rfl⟩
      rw [moves, List.getElem?_eq_none (by omega)]
  · intro error failed calls
    exact Scope.renderSuper_of_error failed calls
  · intro other others same alsoKnown notLast
    obtain rfl : block = other := Option.some.inj (inBlock.symm.trans same)
    obtain rfl : stack = others := Option.some.inj (known.symm.trans alsoKnown)
    have further : block.depth + 1 < stack.length := by omega
    have behind : stack[block.depth + 1]? = some stack[block.depth + 1] :=
      List.getElem?_eq_getElem further
    refine ⟨_, behind, ?_⟩
    intro calls
    rw [behind] at moves
    simp only [Scope.renderSuper, moves]
    rfl

theorem Scope.Placed.walksItsStack {scope : Scope} (placed : scope.Placed) :
    scope.WalksItsStack := by
  cases inBlock : scope.current with
  | none => exact Scope.walksItsStack_of_outside inBlock
  | some block => exact placed.walksItsStack_of_inside inBlock

/-- Calls for every level that do in the scopes that are allowed what those of the setting do, one
level after the other. What they do in other scopes is up to them. -/
structure Setting.Imitated (setting : Setting) (allowed : Scope → Prop) (other : Nat → Calls) :
    Prop where
  lowest : ∀ procedure scope, allowed scope → (other 0).invoke procedure scope = .tooDeep
  invoke : ∀ level procedure scope, allowed scope →
    (other (level + 1)).invoke procedure scope = procedure.run setting (other level) scope
  lowestCompile : ∀ compiler name text, (other 0).compile compiler name text = .tooDeep
  compile : ∀ level compiler name text, (other (level + 1)).compile compiler name text =
    (compiler.recipe name text).run setting (other level) compiler

/-- Whether the current block, if there is one, stands where it claims to stand. -/
def Scope.stands (scope : Scope) : Bool :=
  scope.current.all fun block =>
    ((scope.context.blocks.stack block.name)[block.depth]?).any (·.same block.procedure)

/-- The calls of a setting with a check before each invocation. -/
def Setting.checkedCalls (setting : Setting) (alarm : Error) : Nat → Calls
  | 0 => {
      invoke := fun _ scope => if scope.stands then .tooDeep else .fail alarm
      compile := fun _ _ _ => .tooDeep }
  | level + 1 => {
      invoke := fun procedure scope =>
        if scope.stands then procedure.run setting (setting.checkedCalls alarm level) scope
        else .fail alarm
      compile := fun compiler name text =>
        (compiler.recipe name text).run setting (setting.checkedCalls alarm level) compiler }

theorem Scope.Placed.stands {scope : Scope} (placed : scope.Placed) : scope.stands = true := by
  unfold Scope.stands
  cases inBlock : scope.current with
  | none => rfl
  | some block =>
      rw [Option.all_some, placed.inStack inBlock, Option.any_some, Procedure.same_self]

/-- The check goes unnoticed wherever it is passed. -/
theorem Setting.checkedCalls_imitated_of (setting : Setting) (alarm : Error)
    {allowed : Scope → Prop} (passed : ∀ scope, allowed scope → scope.stands = true) :
    setting.Imitated allowed (setting.checkedCalls alarm) where
  lowest := fun _ scope inScope => by simp only [checkedCalls, passed scope inScope, ↓reduceIte]
  invoke := fun _ _ scope inScope => by simp only [checkedCalls, passed scope inScope, ↓reduceIte]
  lowestCompile := fun _ _ _ => rfl
  compile := fun _ _ _ _ => rfl

theorem Setting.checkedCalls_imitated (setting : Setting) (alarm : Error) :
    setting.Imitated Scope.Arises (setting.checkedCalls alarm) :=
  setting.checkedCalls_imitated_of alarm fun _ arises => arises.placed.stands

theorem Run.eq_lifts : Run.Lifts fun _ run other => run = other where
  refl := fun _ => rfl
  bind := by
    rintro α β run _ next after rfl same
    exact congrArg (run >>= ·) (funext same)
  attempt := fun same => congrArg Run.attempt same
  blame := fun name same => congrArg (Run.blame name) same

/-- Rendering never leaves a closed set of scopes: whatever is done outside of it goes unnoticed. -/
theorem Setting.Imitated.related {setting : Setting} {allowed : Scope → Prop}
    {other : Nat → Calls} (closed : Scope.Closed allowed)
    (imitated : setting.Imitated allowed other) (level : Nat) :
    Calls.Related (fun _ run other => run = other) allowed (other level) (setting.calls level) := by
  induction level with
  | zero => exact ⟨imitated.lowest, imitated.lowestCompile⟩
  | succ level ih =>
      constructor
      · intro procedure scope inScope
        rw [imitated.invoke level procedure scope inScope]
        exact Procedure.run_related Run.eq_lifts closed ih setting procedure scope inScope
      · intro compiler name text
        rw [imitated.compile]
        exact Recipe.run_related Run.eq_lifts closed ih setting compiler _

/-- Rendering a procedure outside of blocks involves no scopes but those that arise, and in each of
these the current block stands in the context at its depth and `super` goes through its stack. -/
theorem invoke_in_arising_scopes (setting : Setting) (context : Context) (procedure : Procedure) :
    (∀ other, setting.Imitated Scope.Arises other → ∀ level,
      (other level).invoke procedure (.outside context) =
        (setting.calls level).invoke procedure (.outside context)) ∧
    ∀ scope : Scope, scope.Arises → scope.Placed ∧ scope.WalksItsStack := by
  constructor
  · intro other imitated level
    exact (imitated.related Scope.closed_arises level).invoke procedure _ (.outside context)
  · intro scope arises
    exact ⟨arises.placed, arises.placed.walksItsStack⟩

/-- A stack in which one procedure stands twice, with a native body between. -/
def Context.layered : Context :=
  let twice : Procedure := ⟨1, .code [.text "<", .super, .text ">"]⟩
  ⟨none, ∅, .ofList [("body", [twice, ⟨2, .native (.super .done)⟩, twice, ⟨3, .code []⟩])]⟩

/-- The check never fires while the layers are rendered, and in the first of them `super` leads to
the second. -/
theorem invoke_in_arising_scopes_layered :
    let setting : Setting := ⟨.empty, .empty⟩
    let root : Procedure := ⟨0, .code [.block "body"]⟩
    let first : Block := ⟨"body", 0, ⟨1, .code [.text "<", .super, .text ">"]⟩⟩
    setting.Imitated Scope.Arises (setting.checkedCalls .stackUnderflow) ∧
    (setting.checkedCalls .stackUnderflow 6).invoke root (.outside .layered) =
      (setting.calls 6).invoke root (.outside .layered) ∧
    ((setting.calls 6).invoke root (.outside .layered) .initial).map (·.1) =
      some (.ok "<<>>") ∧
    (Scope.inside .layered first).Arises ∧
    (Scope.inside .layered first).Placed ∧ (Scope.inside .layered first).WalksItsStack := by
  intro setting root first
  have entered : Context.layered.block "body" = .ok first := rfl
  have arises : (Scope.inside .layered first).Arises := .block (.outside .layered) entered
  obtain ⟨unnoticed, protocol⟩ := invoke_in_arising_scopes setting .layered root
  have imitated := setting.checkedCalls_imitated .stackUnderflow
  exact ⟨imitated, unnoticed _ imitated 6, by rfl, arises, protocol _ arises⟩

end Stencil
