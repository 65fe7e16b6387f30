import Stencil.Proofs.Super

set_option autoImplicit false

/-
Going down a stack with `super`, one body after the other. A body may be taken to another context
than the one it was found in. That context knows nothing of where the body comes from: it looks for
the procedure in its own stack of the block, at the depth of the body, and goes on from there.
-/

namespace Stencil

/-- The body that is reached from a body by going to the next one so many times. -/
def Context.descend (context : Context) (block : Block) : Nat → Except Error Block
  | 0 => .ok block
  | steps + 1 => do
    let last ← context.descend block steps
    context.super last

/-- The body at a depth of a stack. Behind the last one there is no body for `super`. -/
def Context.bodyAt (context : Context) (name : String) (depth : Nat) : Except Error Block :=
  match (context.blocks.stack name)[depth]? with
  | some procedure => .ok ⟨name, depth, procedure⟩
  | none => .error (.noSuperBlock name)

/-- A body of the context behind a body from anywhere: the context has the procedure of the given
body in its own stack of the block, at the same depth, and the other body at the next one. -/
def Context.Follows (context : Context) (block next : Block) : Prop :=
  ∃ current further,
    (context.blocks.stack block.name)[block.depth]? = some current ∧
    current.same block.procedure = true ∧
    (context.blocks.stack block.name)[block.depth + 1]? = some further ∧
    next = ⟨block.name, block.depth + 1, further⟩

/-- The scope of a body that is rendered in a context, and those whose current block stands in
their own context. -/
def Context.Hosts (context : Context) (guest : Block) (scope : Scope) : Prop :=
  scope = .inside context guest ∨ scope.Placed

/-- What a context does with a body, from whichever context it is. -/
structure Context.KeepsToItsStacks (context : Context) (block : Block) : Prop where
  /-- The next body is the one that follows in the context's own stack. -/
  next : ∀ next, context.super block = .ok next ↔ context.Follows block next
  /-- When none follows, the error names the block. -/
  otherwise : (∀ next, ¬ context.Follows block next) →
    context.super block = .error (.noSuperBlock block.name)
  /-- From the next body on, the way is that through the context's own stack. -/
  descends : ∀ next, context.Follows block next → ∀ steps,
    context.descend next steps = context.bodyAt block.name (block.depth + 1 + steps)
  /-- Rendering the body in the context involves no further body but where it stands. -/
  renders : ∀ (setting : Setting) (other : Nat → Calls),
    setting.Imitated (context.Hosts block) other → ∀ level,
      block.render (other level) context = block.render (setting.calls level) context

section Descent

variable {context : Context}

theorem Context.super_of_follows {block next : Block} (follows : context.Follows block next) :
    context.super block = .ok next := by
  obtain ⟨current, further, here, same, behind, rfl⟩ := follows
  rw [Context.super_eq_ite, here, Option.any_some, same, behind]
  exact if_pos rfl

/-- Whatever keeps `super` from going on, the error is that there is no further body. -/
theorem Context.super_cases (context : Context) (block : Block) :
    (∃ next, context.Follows block next) ∨
      context.super block = .error (.noSuperBlock block.name) := by
  rw [Context.super_eq_ite]
  split
  · rename_i found
    obtain ⟨current, here, same⟩ := (Option.any_eq_true _ _).1 found
    cases behind : (context.blocks.stack block.name)[block.depth + 1]? with
    | none => exact Or.inr rfl
    | some further => exact Or.inl ⟨_, current, further, here, same, behind, rfl⟩
  · exact Or.inr rfl

theorem Context.super_eq_ok_iff {block next : Block} :
    context.super block = .ok next ↔ context.Follows block next := by
  constructor
  · intro found
    rcases context.super_cases block with ⟨other, follows⟩ | failed
    · obtain rfl : other = next := Except.ok.inj ((super_of_follows follows).symm.trans found)
      exact follows
    · rw [failed] at found
      cases found
  · exact Context.super_of_follows

theorem Context.bodyAt_of_stands {name : String} {depth : Nat} {procedure : Procedure}
    (stands : (context.blocks.stack name)[depth]? = some procedure) :
    context.bodyAt name depth = .ok ⟨name, depth, procedure⟩ := by
  rw [Context.bodyAt, stands]

theorem Context.bodyAt_of_length_le {name : String} {depth : Nat}
    (behind : (context.blocks.stack name).length ≤ depth) :
    context.bodyAt name depth = .error (.noSuperBlock name) := by
  rw [Context.bodyAt, List.getElem?_eq_none behind]

/-- One step further down a stack, or still behind its end. -/
theorem Context.bodyAt_succ (context : Context) (name : String) (depth : Nat) :
    (context.bodyAt name depth >>= context.super) = context.bodyAt name (depth + 1) := by
  cases stands : (context.blocks.stack name)[depth]? with
  | some procedure =>
      rw [Context.bodyAt_of_stands stands]
      change context.super ⟨name, depth, procedure⟩ = _
      exact Context.super_eq stands
  | none =>
      have behind := List.getElem?_eq_none_iff.1 stands
      rw [Context.bodyAt_of_length_le behind,
        Context.bodyAt_of_length_le (Nat.le_succ_of_le behind)]
      rfl

/-- The way down from a body that stands in the context. Depths count, not procedures, so it does
not matter whether a procedure comes up again. -/
theorem Context.descend_of_placed {block : Block}
    (placed : Scope.Placed (.inside context block)) (steps : Nat) :
    context.descend block steps = context.bodyAt block.name (block.depth + steps) := by
  induction steps with
  | zero => exact (Context.bodyAt_of_stands (placed.inStack rfl)).symm
  | succ steps ih =>
      calc context.descend block (steps + 1)
        _ = context.descend block steps >>= context.super := rfl
        _ = context.bodyAt block.name (block.depth + steps) >>= context.super := by rw [ih]
        _ = context.bodyAt block.name (block.depth + (steps + 1)) :=
          context.bodyAt_succ block.name (block.depth + steps)

theorem Context.exists_block {name : String} (bodies : context.blocks.stack name ≠ []) :
    ∃ first, context.block name = .ok first := by
  rw [Context.block_eq]
  cases stack : context.blocks.stack name with
  | nil => exact absurd stack bodies
  | cons procedure rest => exact ⟨_, rfl⟩

theorem Context.closed_hosts (context : Context) (guest : Block) :
    Scope.Closed (context.Hosts guest) where
  outside := fun other => Or.inr (Scope.Arises.outside other).placed
  block := fun _ found => Or.inr (Context.placed_block found)
  super := fun _ found => Or.inr (Scope.placed_super found)

theorem Context.keepsToItsStacks (context : Context) (block : Block) :
    context.KeepsToItsStacks block where
  next := fun _ => Context.super_eq_ok_iff
  otherwise := by
    intro last
    rcases context.super_cases block with ⟨next, follows⟩ | failed
    · exact absurd follows (last next)
    · exact failed
  descends := by
    intro next follows steps
    have found := Context.super_of_follows follows
    obtain ⟨name, depth⟩ := Context.next_of_super found
    rw [Context.descend_of_placed (Context.placed_super found), name, depth]
  renders := by
    intro setting other imitated level
    have related := imitated.related (context.closed_hosts block) level
    exact related.invoke block.procedure (.inside context block) (Or.inl rfl)

end Descent

/-- From the most derived body `super` goes through the bodies of a block, each at its depth, and
ends behind the last one. With a body from anywhere, a context does not leave its own stacks. -/
theorem super_keeps_to_own_stacks (context : Context) :
    (∀ name, context.blocks.stack name ≠ [] → ∃ first, context.block name = .ok first ∧
      ∀ steps, context.descend first steps = context.bodyAt name steps) ∧
    ∀ block, context.KeepsToItsStacks block := by
  refine ⟨?_, context.keepsToItsStacks⟩
  intro name bodies
  obtain ⟨first, found⟩ := Context.exists_block bodies
  obtain ⟨rfl, derived⟩ := Context.first_of_block found
  refine ⟨first, found, ?_⟩
  intro steps
  rw [Context.descend_of_placed (Context.placed_block found), derived, Nat.zero_add]

/-- A procedure that stands at two depths is passed at both of them, and the check never fires while
a guest is rendered that has it at one of these. At the depth between, where only another context
has it, it is a stranger, which fails at `super`. -/
theorem super_keeps_to_own_stacks_twice :
    let twice : Procedure := ⟨1, .code [.text "<", .super, .text ">"]⟩
    let between : Procedure := ⟨2, .code [.super, .text "."]⟩
    let last : Procedure := ⟨3, .code []⟩
    let context : Context := ⟨none, ∅, .ofList [("body", [twice, between, twice, last])]⟩
    let guest : Block := ⟨"body", 2, twice⟩
    let stranger : Block := ⟨"body", 1, twice⟩
    let setting : Setting := ⟨.empty, .empty⟩
    (∃ first, context.block "body" = .ok first ∧
      context.descend first 2 = .ok guest ∧
      context.descend first 4 = .error (.noSuperBlock "body")) ∧
    guest.render (setting.checkedCalls .stackUnderflow 4) context =
      guest.render (setting.calls 4) context ∧
    (∀ next, ¬ context.Follows stranger next) ∧
    context.super stranger = .error (.noSuperBlock "body") ∧
    (stranger.render (setting.calls 4) context .initial).map (·.1) =
      some (.error (.noSuperBlock "body")) := by
  intro twice between last context guest stranger setting
  obtain ⟨own, foreign⟩ := super_keeps_to_own_stacks context
  obtain ⟨first, found, descends⟩ := own "body" (List.cons_ne_nil _ _)
  have alone (next : Block) : ¬ context.Follows stranger next := by
    rintro ⟨current, further, here, same, -⟩
    cases here
    cases same
  have passed (scope : Scope) (hosted : context.Hosts guest scope) : scope.stands = true := by
    rcases hosted with rfl | placed
    · rfl
    · exact placed.stands
  have unnoticed := (foreign guest).renders setting _
    (setting.checkedCalls_imitated_of .stackUnderflow passed) 4
  exact ⟨⟨first, found, descends 2, descends 4⟩, unnoticed, alone,
    (foreign stranger).otherwise alone, by rfl⟩

end Stencil
