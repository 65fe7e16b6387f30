import Mathlib.Data.List.Forall2
import Stencil.Proofs.Super

set_option autoImplicit false

/-
Runs that agree. Two runs agree when they end with related results and make the same calls, in
whatever states they start, and change nothing else. They may be runs in different contexts: where
the bodies of two contexts are related one by one, dispatch to blocks and `super` finds bodies that
are related, or fails with the same error.
-/

namespace Stencil

/-- Two results that are the same error, or values that are related. -/
def Run.SameResult {α β : Type} (R : α → β → Prop) : Except Error α → Except Error β → Prop
  | .ok value, .ok other => R value other
  | .error error, .error other => error = other
  | _, _ => False

/-- Only the record grew, by the given calls, and perhaps the number of procedures. -/
def State.Extends (state after : State) (events : List Event) : Prop :=
  ∃ procedures, after = { state with procedures, record := events ++ state.record }

/-- Whatever states they start from, both runs end or neither does. If they do, they have the same
result, have made the same calls, and have changed nothing else. -/
def Run.Agree {α β : Type} (R : α → β → Prop) (run : Run α) (other : Run β) : Prop :=
  ∀ state before,
    (run state = none ∧ other before = none) ∨
    ∃ result after finish final events,
      run state = some (result, after) ∧ other before = some (finish, final) ∧
      Run.SameResult R result finish ∧ state.Extends after events ∧ before.Extends final events

theorem Run.SameResult.bind {α β γ δ : Type} {R : α → β → Prop} {S : γ → δ → Prop}
    {result : Except Error α} {finish : Except Error β} {next : α → Except Error γ}
    {after : β → Except Error δ} (same : SameResult R result finish)
    (rest : ∀ value reply, R value reply → SameResult S (next value) (after reply)) :
    SameResult S (result >>= next) (finish >>= after) := by
  cases result with
  | error error =>
      cases finish with
      | error reason => exact same
      | ok reply => exact same.elim
  | ok value =>
      cases finish with
      | error reason => exact same.elim
      | ok reply => exact rest value reply same

theorem State.Extends.refl (state : State) : state.Extends state [] := ⟨state.procedures, rfl⟩

theorem State.Extends.trans {state middle after : State} {first second : List Event}
    (early : state.Extends middle first) (late : middle.Extends after second) :
    state.Extends after (second ++ first) := by
  obtain ⟨_, rfl⟩ := early
  obtain ⟨procedures, rfl⟩ := late
  exact ⟨procedures, by simp only [List.append_assoc]⟩

section Agree

variable {α β γ δ : Type} {R : α → β → Prop} {S : γ → δ → Prop}

theorem Run.agree_ofExcept {result : Except Error α} {other : Except Error β}
    (same : Run.SameResult R result other) : Run.Agree R (.ofExcept result) (.ofExcept other) := by
  intro state before
  exact Or.inr ⟨result, state, other, before, [], rfl, rfl, same, .refl state, .refl before⟩

theorem Run.sameResult_refl (result : Except Error α) : Run.SameResult Eq result result := by
  cases result <;> rfl

theorem Run.agree_same (result : Except Error α) :
    Run.Agree Eq (.ofExcept result) (.ofExcept result) :=
  Run.agree_ofExcept (Run.sameResult_refl result)

theorem Run.agree_pure {value : α} {other : β} (same : R value other) :
    Run.Agree R (.pure value) (.pure other) := by
  have results : Run.SameResult R (.ok value) (.ok other) := same
  exact Run.agree_ofExcept results

theorem Run.agree_fail (error : Error) : Run.Agree R (.fail error) (.fail error) := by
  have results : Run.SameResult R (.error error) (.error error) := rfl
  exact Run.agree_ofExcept results

theorem Run.agree_tooDeep : Run.Agree R .tooDeep .tooDeep := fun _ _ => Or.inl ⟨rfl, rfl⟩

theorem Run.agree_note (event : Event) : Run.Agree (fun _ _ => True) (.note event) (.note event) := by
  intro state before
  exact Or.inr ⟨.ok (), state.note event, .ok (), before.note event, [event], rfl, rfl, trivial,
    ⟨state.procedures, rfl⟩, ⟨before.procedures, rfl⟩⟩

theorem Run.Agree.bind {run : Run α} {other : Run β} {next : α → Run γ} {after : β → Run δ}
    (first : Run.Agree R run other)
    (rest : ∀ value reply, R value reply → Run.Agree S (next value) (after reply)) :
    Run.Agree S (run >>= next) (other >>= after) := by
  intro state before
  rw [Run.bind_eq, Run.bind_eq]
  unfold Run.bind
  rcases first state before with ⟨endless, alsoEndless⟩ |
    ⟨result, middle, reply, between, events, ended, alsoEnded, same, grown, alsoGrown⟩
  · exact Or.inl ⟨by rw [endless], by rw [alsoEndless]⟩
  · rw [ended, alsoEnded]
    cases result with
    | error error =>
        cases reply with
        | error other =>
            exact Or.inr ⟨_, _, _, _, events, rfl, rfl, same, grown, alsoGrown⟩
        | ok reply => exact same.elim
    | ok value =>
        cases reply with
        | error other => exact same.elim
        | ok reply =>
            rcases rest value reply same middle between with ⟨endless, alsoEndless⟩ |
              ⟨_, _, _, _, more, finished, alsoFinished, same, grownMore, alsoGrownMore⟩
            · exact Or.inl ⟨endless, alsoEndless⟩
            · exact Or.inr ⟨_, _, _, _, more ++ events, finished, alsoFinished, same,
                grown.trans grownMore, alsoGrown.trans alsoGrownMore⟩

/-- What follows a value that both runs agree on has to agree for equal values only. -/
theorem Run.Agree.bind_eq {run other : Run α} {next : α → Run γ} {after : α → Run δ}
    (first : Run.Agree Eq run other) (rest : ∀ value, Run.Agree S (next value) (after value)) :
    Run.Agree S (run >>= next) (other >>= after) := by
  apply first.bind
  intro value reply same
  rw [← same]
  exact rest value

theorem Run.Agree.attempt {run : Run α} {other : Run β} (agree : Run.Agree R run other) :
    Run.Agree (Run.SameResult R) run.attempt other.attempt := by
  intro state before
  unfold Run.attempt
  rcases agree state before with ⟨endless, alsoEndless⟩ |
    ⟨result, after, reply, final, events, ended, alsoEnded, same, grown, alsoGrown⟩
  · exact Or.inl ⟨by rw [endless]; rfl, by rw [alsoEndless]; rfl⟩
  · exact Or.inr ⟨.ok result, after, .ok reply, final, events, by rw [ended]; rfl,
      by rw [alsoEnded]; rfl, same, grown, alsoGrown⟩

theorem Run.Agree.blame {run : Run α} {other : Run β} (agree : Run.Agree R run other)
    (name : String) : Run.Agree R (run.blame name) (other.blame name) := by
  intro state before
  unfold Run.blame
  rcases agree state before with ⟨endless, alsoEndless⟩ |
    ⟨result, after, reply, final, events, ended, alsoEnded, same, grown, alsoGrown⟩
  · exact Or.inl ⟨by rw [endless]; rfl, by rw [alsoEndless]; rfl⟩
  · refine Or.inr ⟨_, after, _, final, events, by rw [ended]; rfl, by rw [alsoEnded]; rfl, ?_,
      grown, alsoGrown⟩
    cases result with
    | error error =>
        cases reply with
        | error reason => exact congrArg (Error.inTemplate · name) same
        | ok reply => exact same.elim
    | ok value =>
        cases reply with
        | error reason => exact same.elim
        | ok reply => exact same

/-- Where one of two runs that agree ends, the other does. -/
theorem Run.Agree.ended {run : Run α} {other : Run β} (agree : Run.Agree R run other)
    {state after : State} {result : Except Error α} (reached : run state = some (result, after))
    (before : State) :
    ∃ finish final events, other before = some (finish, final) ∧
      Run.SameResult R result finish ∧ state.Extends after events := by
  rcases agree state before with ⟨endless, _⟩ |
    ⟨_, _, finish, final, events, alsoReached, ended, same, grown, _⟩
  · rw [reached] at endless
    cases endless
  · rw [reached] at alsoReached
    cases alsoReached
    exact ⟨finish, final, events, ended, same, grown⟩

theorem Run.SameResult.eq {result finish : Except Error α} (same : Run.SameResult Eq result finish) :
    result = finish := by
  cases result with
  | error error =>
      cases finish with
      | error reason => exact congrArg Except.error same
      | ok reply => exact same.elim
  | ok value =>
      cases finish with
      | error reason => exact same.elim
      | ok reply => exact congrArg Except.ok same

/-- Runs that agree on a value end with the same results. -/
theorem Run.Agree.result_iff {run other : Run α} (agree : Run.Agree Eq run other)
    (state before : State) (result : Except Error α) :
    (∃ after, run state = some (result, after)) ↔ ∃ final, other before = some (result, final) := by
  constructor
  · rintro ⟨after, reached⟩
    obtain ⟨finish, final, _, ended, same, _⟩ := agree.ended reached before
    rw [same.eq]
    exact ⟨final, ended⟩
  · rintro ⟨final, ended⟩
    rcases agree state before with ⟨_, endless⟩ | ⟨_, after, _, _, _, reached, alsoEnded, same, _⟩
    · rw [ended] at endless
      cases endless
    · rw [ended] at alsoEnded
      cases alsoEnded
      rw [same.eq] at reached
      exact ⟨after, reached⟩

theorem Run.Agree.result_eq {run other : Run α} (agree : Run.Agree Eq run other)
    (state before : State) : (run state).map (·.1) = (other before).map (·.1) := by
  rcases agree state before with ⟨endless, alsoEndless⟩ |
    ⟨result, after, finish, final, events, ended, alsoEnded, same, -, -⟩
  · rw [endless, alsoEndless]
  · rw [ended, alsoEnded, same.eq]
    rfl

end Agree

/-- Applying a filter looks at no other filter. -/
theorem Setting.applyFilter_agree_of_get? {setting reset : Setting} {name : String}
    (same : setting.environment.filters.get? name = reset.environment.filters.get? name)
    (value : Value) (args : List Value) :
    Run.Agree Eq (setting.applyFilter name value args) (reset.applyFilter name value args) := by
  unfold Setting.applyFilter
  rw [same]
  split
  · exact Run.agree_fail _
  · apply (Run.agree_note _).bind
    intro _ _ _
    exact Run.agree_same _

theorem Setting.applyFilter_agree {setting reset : Setting}
    (filters : setting.environment.filters = reset.environment.filters) (name : String)
    (value : Value) (args : List Value) :
    Run.Agree Eq (setting.applyFilter name value args) (reset.applyFilter name value args) :=
  Setting.applyFilter_agree_of_get? (by rw [filters]) value args

section Paired

variable (R : Procedure → Procedure → Prop)

/-- Each block has related bodies, in the same order. -/
def Blocks.Paired (blocks other : Blocks) : Prop :=
  ∀ name, List.Forall₂ R (blocks.stack name) (other.stack name)

/-- Scopes with the same variables, related bodies, and the current block at the same place. -/
structure Scope.Paired (scope other : Scope) : Prop where
  bindings : scope.context.bindings = other.context.bindings
  blocks : scope.context.blocks.Paired R other.context.blocks
  current : scope.current.map (fun block => (block.name, block.depth)) =
    other.current.map fun block => (block.name, block.depth)
  placed : scope.Placed
  alsoPlaced : other.Placed

/-- Related bodies, each in a context of two that are paired. -/
def Block.Paired (context other : Context) (block body : Block) : Prop :=
  R block.procedure body.procedure ∧ Scope.Paired R (.inside context block) (.inside other body)

/-- Calls under which related procedures agree. -/
def Calls.InvokePaired (calls other : Calls) : Prop :=
  ∀ procedure body scope inner, R procedure body → Scope.Paired R scope inner →
    Run.Agree Eq (calls.invoke procedure scope) (other.invoke body inner)

variable {R}

theorem Scope.paired_outside {context other : Context} (bindings : context.bindings = other.bindings)
    (blocks : context.blocks.Paired R other.blocks) :
    Scope.Paired R (.outside context) (.outside other) :=
  ⟨bindings, blocks, rfl, Scope.Arises.placed (.outside context),
    Scope.Arises.placed (.outside other)⟩

theorem Scope.Paired.block {scope other : Scope} (paired : scope.Paired R other) (name : String) :
    Run.SameResult (Block.Paired R scope.context other.context) (scope.context.block name)
      (other.context.block name) := by
  have pairs := paired.blocks name
  cases known : scope.context.blocks.stack name with
  | nil =>
      rw [known] at pairs
      have alsoKnown := List.forall₂_nil_left_iff.1 pairs
      rw [Context.block_eq, Context.block_eq, known, alsoKnown]
      rfl
  | cons procedure rest =>
      rw [known] at pairs
      obtain ⟨body, others, same, -, alsoKnown⟩ := List.forall₂_cons_left_iff.1 pairs
      have entered : scope.context.block name = .ok ⟨name, 0, procedure⟩ := by
        rw [Context.block_eq, known]
      have alsoEntered : other.context.block name = .ok ⟨name, 0, body⟩ := by
        rw [Context.block_eq, alsoKnown]
      rw [entered, alsoEntered]
      exact ⟨same, paired.bindings, paired.blocks, rfl, Context.placed_block entered,
        Context.placed_block alsoEntered⟩

theorem Scope.Paired.super {scope other : Scope} (paired : scope.Paired R other) :
    Run.SameResult (Block.Paired R scope.context other.context) scope.super other.super := by
  have current := paired.current
  unfold Scope.super
  cases inBlock : scope.current with
  | none =>
      rw [inBlock] at current
      have outside : other.current = none := Option.map_eq_none_iff.1 current.symm
      rw [outside]
      rfl
  | some block =>
      rw [inBlock] at current
      obtain ⟨body, alsoInBlock, same⟩ := Option.map_eq_some_iff.1 current.symm
      obtain ⟨name, depth⟩ := Prod.mk.inj same
      rw [alsoInBlock]
      change Run.SameResult (Block.Paired R scope.context other.context)
        (scope.context.super block) (other.context.super body)
      have super := Context.super_eq (paired.placed.inStack inBlock)
      have alsoSuper := Context.super_eq (paired.alsoPlaced.inStack alsoInBlock)
      rw [name, depth] at alsoSuper
      have pairs := List.forall₂_iff_get.1 (paired.blocks block.name)
      by_cases further : block.depth + 1 < (scope.context.blocks.stack block.name).length
      · have alsoFurther := further
        rw [pairs.1] at alsoFurther
        rw [List.getElem?_eq_getElem further] at super
        rw [List.getElem?_eq_getElem alsoFurther] at alsoSuper
        rw [super, alsoSuper]
        exact ⟨pairs.2 _ further alsoFurther, paired.bindings, paired.blocks, rfl,
          Context.placed_super super, Context.placed_super alsoSuper⟩
      · rw [List.getElem?_eq_none (by omega)] at super
        rw [List.getElem?_eq_none (by omega)] at alsoSuper
        rw [super, alsoSuper]
        rfl

variable {calls other : Calls} {scope inner : Scope}

theorem Scope.Paired.renderBlock_agree (paired : scope.Paired R inner)
    (invoke : calls.InvokePaired R other) (name : String) :
    Run.Agree Eq (scope.renderBlock calls name) (inner.renderBlock other name) := by
  apply (Run.agree_ofExcept (paired.block name)).bind
  intro block body same
  exact invoke _ _ _ _ same.1 same.2

theorem Scope.Paired.renderSuper_agree (paired : scope.Paired R inner)
    (invoke : calls.InvokePaired R other) :
    Run.Agree Eq (scope.renderSuper calls) (inner.renderSuper other) := by
  apply (Run.agree_ofExcept paired.super).bind
  intro block body same
  exact invoke _ _ _ _ same.1 same.2

end Paired

end Stencil
