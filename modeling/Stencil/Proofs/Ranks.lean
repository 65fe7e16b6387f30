import Stencil.Proofs.Growth

set_option autoImplicit false

/-
Rendering that ends. Each call goes one level down, so rendering ends if something becomes smaller with
every call. Where blocks have ranks it is the rank when a body calls a block, and what is left of the
stack when it calls `super`, even if the next body is the same procedure once more. Both together
make one number, which is as deep as the calls can nest.
-/

namespace Stencil

/-- Under the ranks, each body calls blocks of a lower rank only. Blocks without a body may be called
anywhere. -/
def Blocks.Ranked (blocks : Blocks) (rank : String → Nat) : Prop :=
  ∀ name, ∀ procedure ∈ blocks.stack name, ∀ code called, procedure.body = .code code →
    .block called ∈ code → blocks.stack called ≠ [] → rank called < rank name

/-- How deep calls can nest from a body on, where stacks are no longer than `longest`: the bodies that
are left in its stack, and a full stack for each lower rank. -/
def Blocks.reach (blocks : Blocks) (rank : String → Nat) (longest : Nat) (block : Block) : Nat :=
  rank block.name * longest + ((blocks.stack block.name).length - block.depth)

/-- The run ends, whatever state it starts from. -/
def Run.Finishes {α : Type} (run : Run α) : Prop :=
  ∀ state, ∃ result after, run state = some (result, after)

/-! ### Runs that end -/

section Finishes

variable {α β : Type}

theorem Run.finishes_ofExcept (result : Except Error α) : (Run.ofExcept result).Finishes :=
  fun state => ⟨result, state, rfl⟩

theorem Run.Finishes.bind {run : Run α} {next : α → Run β} (first : run.Finishes)
    (rest : ∀ value, (next value).Finishes) : (run >>= next).Finishes := by
  intro state
  obtain ⟨result, middle, ended⟩ := first state
  cases result with
  | error error => exact ⟨.error error, middle, Run.bind_of_error next ended⟩
  | ok value =>
      rw [Run.bind_of_ok next ended]
      exact rest value middle

theorem Setting.applyFilter_finishes (setting : Setting) (name : String) (value : Value)
    (args : List Value) : (setting.applyFilter name value args).Finishes := by
  unfold Setting.applyFilter
  split
  · exact Run.finishes_ofExcept _
  · rename_i filter _
    intro state
    exact ⟨filter.apply value args, state.note (.filter name value args), rfl⟩

variable {setting : Setting} {calls : Calls} {scope : Scope}

/-- An instruction ends if the body does that it may call. -/
theorem Op.run_finishes {op : Op}
    (block : ∀ name, op = .block name → (scope.renderBlock calls name).Finishes)
    (super : op = .super → (scope.renderSuper calls).Finishes) (machine : Machine) :
    (op.run setting calls scope machine).Finishes := by
  cases op with
  | text | lookup | const => exact Run.finishes_ofExcept _
  | filter name count =>
      apply (Run.finishes_ofExcept (machine.popMany count)).bind
      intro ⟨args, machine⟩
      apply (Run.finishes_ofExcept machine.pop).bind
      intro ⟨value, machine⟩
      apply (setting.applyFilter_finishes name value args).bind
      intro result
      exact Run.finishes_ofExcept _
  | emit =>
      apply (Run.finishes_ofExcept machine.pop).bind
      intro ⟨value, machine⟩
      exact Run.finishes_ofExcept _
  | block name => exact (block name rfl).bind fun _ => Run.finishes_ofExcept _
  | super => exact (super rfl).bind fun _ => Run.finishes_ofExcept _

theorem Code.runFrom_finishes {code : Code}
    (block : ∀ name, .block name ∈ code → (scope.renderBlock calls name).Finishes)
    (super : (scope.renderSuper calls).Finishes) (machine : Machine) :
    (Code.runFrom setting calls scope machine code).Finishes := by
  induction code generalizing machine with
  | nil => exact Run.finishes_ofExcept _
  | cons op rest ih =>
      apply (Op.run_finishes (fun name same => block name (same ▸ List.mem_cons_self))
        (fun _ => super) machine).bind
      intro machine
      exact ih (fun name later => block name (List.mem_cons_of_mem op later)) machine

theorem Procedure.run_finishes {procedure : Procedure} {code : Code}
    (body : procedure.body = .code code)
    (block : ∀ name, .block name ∈ code → (scope.renderBlock calls name).Finishes)
    (super : (scope.renderSuper calls).Finishes) :
    (procedure.run setting calls scope).Finishes := by
  simp only [Procedure.run, body]
  apply (Code.runFrom_finishes block super .initial).bind
  intro machine
  exact Run.finishes_ofExcept _

end Finishes

/-! ### What becomes smaller -/

section Reach

variable {blocks : Blocks} {rank : String → Nat} {longest : Nat}

/-- The most derived body of a block can go no deeper than through all stacks up to its rank. -/
theorem Blocks.reach_of_depth_zero (bounded : ∀ name, (blocks.stack name).length ≤ longest)
    {block : Block} (derived : block.depth = 0) :
    blocks.reach rank longest block ≤ (rank block.name + 1) * longest := by
  have short := bounded block.name
  unfold reach
  rw [derived, Nat.sub_zero, Nat.succ_mul]
  exact Nat.add_le_add_left short _

/-- A block of a lower rank has less to go, however long its stack is. -/
theorem Blocks.reach_lt_of_rank_lt (bounded : ∀ name, (blocks.stack name).length ≤ longest)
    {block called : Block} (derived : called.depth = 0) (lower : rank called.name < rank block.name)
    (stands : block.depth < (blocks.stack block.name).length) :
    blocks.reach rank longest called < blocks.reach rank longest block := by
  calc blocks.reach rank longest called
    _ ≤ (rank called.name + 1) * longest := Blocks.reach_of_depth_zero bounded derived
    _ ≤ rank block.name * longest := Nat.mul_le_mul_right longest lower
    _ < blocks.reach rank longest block := by
      unfold reach
      omega

/-- The next body of a stack has one body less to go, whichever procedure it is. -/
theorem Blocks.reach_lt_of_next {block next : Block} (name : next.name = block.name)
    (depth : next.depth = block.depth + 1)
    (stands : block.depth < (blocks.stack block.name).length) :
    blocks.reach rank longest next < blocks.reach rank longest block := by
  unfold reach
  rw [name, depth]
  omega

end Reach

/-! ### Rendering with ranks -/

section Ranked

variable {calls : Calls} {scope : Scope}

theorem Scope.renderBlock_finishes {name : String}
    (enter : ∀ block, scope.context.block name = .ok block →
      (calls.invoke block.procedure (.inside scope.context block)).Finishes) :
    (scope.renderBlock calls name).Finishes := by
  unfold Scope.renderBlock
  cases found : scope.context.block name with
  | error error => exact Run.finishes_ofExcept _
  | ok block => exact enter block found

theorem Scope.renderSuper_finishes
    (enter : ∀ block, scope.super = .ok block →
      (calls.invoke block.procedure (.inside scope.context block)).Finishes) :
    (scope.renderSuper calls).Finishes := by
  unfold Scope.renderSuper
  cases found : scope.super with
  | error error => exact Run.finishes_ofExcept _
  | ok block => exact enter block found

variable {context : Context} {rank : String → Nat} {longest : Nat}
variable (interpreted : ∀ name, ∀ procedure ∈ context.blocks.stack name, procedure.Interpreted)
variable (ranked : context.blocks.Ranked rank)
variable (bounded : ∀ name, (context.blocks.stack name).length ≤ longest)

include interpreted ranked bounded

/-- The induction is on the level: a body whose reach fits into it only calls bodies whose reach fits
into the level below. -/
theorem Blocks.Ranked.body_finishes (setting : Setting) (level : Nat) {block : Block}
    (placed : Scope.Placed (.inside context block))
    (enough : context.blocks.reach rank longest block ≤ level) :
    ((setting.calls level).invoke block.procedure (.inside context block)).Finishes := by
  have here : (context.blocks.stack block.name)[block.depth]? = some block.procedure :=
    placed.inStack rfl
  have stands := (List.getElem?_eq_some_iff.1 here).1
  induction level generalizing block with
  | zero =>
      unfold Blocks.reach at enough
      omega
  | succ level ih =>
      have member := List.mem_of_getElem? here
      obtain ⟨code, body⟩ := interpreted block.name block.procedure member
      -- What the body calls has less to go.
      have enter (called : Block) (placed : Scope.Placed (.inside context called))
          (less : context.blocks.reach rank longest called <
            context.blocks.reach rank longest block) :
          ((setting.calls level).invoke called.procedure (.inside context called)).Finishes := by
        have there : (context.blocks.stack called.name)[called.depth]? = some called.procedure :=
          placed.inStack rfl
        exact ih placed (by omega) there (List.getElem?_eq_some_iff.1 there).1
      change (block.procedure.run setting (setting.calls level) (.inside context block)).Finishes
      apply Procedure.run_finishes body
      · intro name called
        apply Scope.renderBlock_finishes
        intro first found
        have alsoPlaced := Context.placed_block found
        obtain ⟨rfl, derived⟩ := Context.first_of_block found
        have bodies := List.ne_nil_of_mem (List.mem_of_getElem? (alsoPlaced.inStack rfl))
        have lower := ranked block.name block.procedure member code first.name body called bodies
        exact enter first alsoPlaced (Blocks.reach_lt_of_rank_lt bounded derived lower stands)
      · apply Scope.renderSuper_finishes
        intro next found
        obtain ⟨name, depth⟩ := Context.next_of_super found
        exact enter next (Context.placed_super found) (Blocks.reach_lt_of_next name depth stands)

variable {highest : Nat} (ranks : ∀ name, context.blocks.stack name ≠ [] → rank name ≤ highest)

include ranks

/-- A root may call any block, so it is one level above the highest rank. -/
theorem Blocks.Ranked.root_finishes {root : Procedure} (rootInterpreted : root.Interpreted)
    (setting : Setting) {level : Nat} (enough : (highest + 1) * longest ≤ level) :
    ((setting.calls (level + 1)).invoke root (.outside context)).Finishes := by
  obtain ⟨code, body⟩ := rootInterpreted
  change (root.run setting (setting.calls level) (.outside context)).Finishes
  apply Procedure.run_finishes body
  · intro name _
    apply Scope.renderBlock_finishes
    intro first found
    have placed := Context.placed_block found
    obtain ⟨rfl, derived⟩ := Context.first_of_block found
    have bodies := List.ne_nil_of_mem (List.mem_of_getElem? (placed.inStack rfl))
    apply ranked.body_finishes interpreted bounded setting level placed
    calc context.blocks.reach rank longest first
      _ ≤ (rank first.name + 1) * longest := Blocks.reach_of_depth_zero bounded derived
      _ ≤ (highest + 1) * longest :=
        Nat.mul_le_mul_right longest (Nat.succ_le_succ (ranks first.name bodies))
      _ ≤ level := enough
  · exact Run.finishes_ofExcept (.error .superOutsideBlock)

end Ranked

/-- Rendering ends when the bodies of each block call blocks of a lower rank only. How deep calls can
nest is settled by the blocks: it is the same for every root of instructions, for all data, and for
all filters. Bodies may call `super` as often as they like, for it goes down the stack even where
one procedure stands in it several times. -/
theorem ranked_rendering_ends {blocks : Blocks} {rank : String → Nat}
    (interpreted : ∀ name, ∀ procedure ∈ blocks.stack name, procedure.Interpreted)
    (ranked : blocks.Ranked rank) :
    ∃ depth, ∀ (root : Procedure), root.Interpreted →
      ∀ (engine : Engine) (name : Option String) (data : Data) (limit : Nat), depth ≤ limit →
        ∃ result after, engine.renderForm limit ⟨root, blocks⟩ name data = some (result, after) := by
  obtain ⟨longest, bounded⟩ := blocks.bounded
  obtain ⟨highest, ranks⟩ := blocks.exists_bound rank
  refine ⟨(highest + 1) * longest, ?_⟩
  intro root rootInterpreted engine name data limit enough
  rcases Context.ofData_cases name data with ⟨error, refused⟩ | ⟨bindings, given⟩
  · exact ⟨.error error, engine, Engine.renderForm_of_error refused engine limit _⟩
  · let context : Context := ⟨name, bindings, blocks⟩
    have finishes : ((engine.setting.calls (limit + 1)).invoke root (.outside context)).Finishes :=
      Blocks.Ranked.root_finishes interpreted ranked bounded ranks rootInterpreted engine.setting
        enough
    obtain ⟨result, after, ended⟩ := finishes engine.state
    refine ⟨result, { engine with state := after }, ?_⟩
    rw [Engine.renderForm_of_ok given]
    exact congrArg (Option.map _) ended

/-- One procedure stands twice in the stack of `a`, where it calls `super` twice, and another stands
in both stacks. -/
theorem ranked_rendering_ends_shared :
    let twice : Procedure := ⟨1, .code [.super, .block "b", .super]⟩
    let last : Procedure := ⟨2, .code [.text "."]⟩
    let blocks : Blocks := .ofList [("a", [twice, twice, last]), ("b", [last])]
    let rank : String → Nat := fun name => if name = "a" then 1 else 0
    let root : Procedure := ⟨0, .code [.block "a"]⟩
    let engine := Engine.new .empty .empty
    blocks.Ranked rank ∧
    (∃ depth, ∀ limit, depth ≤ limit → ∃ result after,
      engine.renderForm limit ⟨root, blocks⟩ none (.ok .null) = some (result, after)) ∧
    engine.renderForm 4 ⟨root, blocks⟩ none (.ok .null) = some (.ok ".......", engine) := by
  intro twice last blocks rank root engine
  have ordered : "a" < "b" := by decide
  have spelled : blocks = ⟨.cons "a" (Entries.after_none "a") [twice, twice, last]
      (.cons "b" (Entries.after_some ordered) [last] .nil)⟩ := Dict.ofList_pair ordered _ _
  have stack (name : String) : blocks.stack name =
      if "a" = name then [twice, twice, last] else if "b" = name then [last] else [] := by
    rw [spelled]
    change Option.getD (if "a" = name then some _ else if "b" = name then some _ else none) [] = _
    split
    · rfl
    · split <;> rfl
  have bodies : ∀ name, ∀ procedure ∈ blocks.stack name,
      procedure = twice ∧ name = "a" ∨ procedure = last := by
    intro name procedure member
    rw [stack] at member
    split at member
    · rename_i same
      simp only [List.mem_cons, List.not_mem_nil, or_false] at member
      rcases member with rfl | rfl | rfl
      · exact Or.inl ⟨rfl, same.symm⟩
      · exact Or.inl ⟨rfl, same.symm⟩
      · exact Or.inr rfl
    · split at member
      · exact Or.inr (List.mem_singleton.1 member)
      · cases member
  have interpreted : ∀ name, ∀ procedure ∈ blocks.stack name, procedure.Interpreted := by
    intro name procedure member
    rcases bodies name procedure member with ⟨rfl, -⟩ | rfl <;> exact ⟨_, rfl⟩
  have ranked : blocks.Ranked rank := by
    intro name procedure member code called body calls _
    rcases bodies name procedure member with ⟨rfl, rfl⟩ | rfl
    · cases body
      simp only [List.mem_cons, Op.block.injEq, reduceCtorEq, List.not_mem_nil, or_false,
        false_or] at calls
      subst calls
      decide
    · cases body
      simp only [List.mem_singleton, reduceCtorEq] at calls
  obtain ⟨depth, ends⟩ := ranked_rendering_ends interpreted ranked
  refine ⟨ranked, ⟨depth, fun limit enough => ends root ⟨_, rfl⟩ engine none _ limit enough⟩, ?_⟩
  rw [spelled]
  rfl

end Stencil
