import Stencil.Markup.Compiler
import Stencil.Proofs.Lookup
import Stencil.Proofs.Parsing

set_option autoImplicit false

namespace Stencil.Markup

def Document.bodiesOf (doc : Document) (block : String) : List Code :=
  (doc.blocks.filter (·.1 = block)).map (·.2)

/-- The bodies of a block that are written in a chain of documents, in order. -/
def bodiesOf (docs : List Document) (block : String) : List Code :=
  docs.flatMap (·.bodiesOf block)

/-- The export of a block. -/
def Exported (block : String × Code) (entry : String × Procedure) : Prop :=
  entry.1 = Module.bodyName block.1 ∧ entry.2.body = .code block.2

/-- The modules of chains of documents. -/
inductive Flattened : List Document → Module → Prop
  | root {doc : Document} {bodies : List (String × Procedure)} {root : Procedure}
      (written : List.Forall₂ Exported doc.blocks bodies) (interpreted : root.body = .code doc.root) :
      Flattened [doc] ⟨bodies ++ [(Module.rootName, root)]⟩
  | child {doc : Document} {docs : List Document} {bodies : List (String × Procedure)}
      {inherited : Module} (written : List.Forall₂ Exported doc.blocks bodies)
      (rest : Flattened docs inherited) : Flattened (doc :: docs) ⟨bodies ++ inherited.exports⟩

/-- Stacks that hold the bodies of a chain of documents. -/
def Stacked (docs : List Document) (blocks : Blocks) : Prop :=
  ∀ block, (blocks.stack block).map (·.body) = (bodiesOf docs block).map .code

/-- The form of a chain: the root of the last document, and the stacks of all of them. -/
structure Flattens (form : Compiled) (docs : List Document) : Prop where
  root : ∃ last, docs.getLast? = some last ∧ form.root.body = .code last.root
  stacked : Stacked docs form.blocks
  absent : ∀ block, form.blocks.get? block = none ↔ ∀ doc ∈ docs, doc.bodiesOf block = []

/-- The body that follows the one at hand: the next one of the same document, and else the first one
of the nearest document behind that has one. -/
def nextBody (behind : List Code) (older : List Document) (block : String) : Option Code :=
  behind.head?.or (older.findSome? fun doc => (doc.bodiesOf block).head?)

theorem foldlM_readRoot_bodies {blocks : List (String × Code)}
    {bodies : List (String × Procedure)} (written : List.Forall₂ Exported blocks bodies)
    (named : ∀ entry ∈ blocks, entry.1 ≠ "") (rest : List (String × Procedure))
    (root : Option Procedure) :
    (bodies ++ rest).foldlM Module.readRoot root = rest.foldlM Module.readRoot root := by
  induction written with
  | nil => rfl
  | @cons block entry others more exported _ ih =>
      have first : Module.readRoot root entry = .ok root := by
        unfold Module.readRoot
        rw [exported.1, Module.role_bodyName]
        exact if_neg (named block List.mem_cons_self)
      rw [List.cons_append, List.foldlM_cons, first]
      exact ih fun entry member => named entry (List.mem_cons_of_mem block member)

theorem Flattened.readRoot {docs : List Document} {m : Module} (flattened : Flattened docs m)
    (sound : ∀ doc ∈ docs, doc.Sound) :
    ∃ root last, m.exports.foldlM Module.readRoot none = .ok (some root) ∧
      docs.getLast? = some last ∧ root.body = .code last.root := by
  induction flattened with
  | @root doc bodies root written interpreted =>
      have named := fun entry member => ((sound doc List.mem_cons_self).bodies entry member).named
      refine ⟨root, doc, ?_, rfl, interpreted⟩
      rw [foldlM_readRoot_bodies written named]
      rfl
  | @child doc docs bodies inherited written rest ih =>
      have named := fun entry member => ((sound doc List.mem_cons_self).bodies entry member).named
      obtain ⟨root, last, read, same, interpreted⟩ :=
        ih fun other member => sound other (List.mem_cons_of_mem doc member)
      refine ⟨root, last, ?_, ?_, interpreted⟩
      · rw [foldlM_readRoot_bodies written named, read]
      · rw [List.getLast?_cons, same]
        rfl

def exportsOf (exports : List (String × Procedure)) (block : String) : List Procedure :=
  ((Module.bodies ⟨exports⟩).filter (·.1 = block)).map (·.2)

theorem exportsOf_append (first second : List (String × Procedure)) (block : String) :
    exportsOf (first ++ second) block = exportsOf first block ++ exportsOf second block := by
  simp only [exportsOf, Module.bodies, List.filterMap_append, List.filter_append, List.map_append]

theorem exportsOf_body (name : String) (procedure : Procedure) (block : String) :
    exportsOf [(Module.bodyName name, procedure)] block = if name = block then [procedure] else [] := by
  simp only [exportsOf, Module.bodies, List.filterMap_cons, Module.role_bodyName,
    List.filterMap_nil, List.filter_cons, List.filter_nil, decide_eq_true_eq]
  split <;> rfl

theorem exportsOf_written {blocks : List (String × Code)} {bodies : List (String × Procedure)}
    (written : List.Forall₂ Exported blocks bodies) (block : String) :
    (exportsOf bodies block).map (·.body) =
      ((blocks.filter (·.1 = block)).map (·.2)).map .code := by
  induction written with
  | nil => rfl
  | @cons written entry others more exported _ ih =>
      obtain ⟨name, procedure⟩ := entry
      obtain ⟨rfl, interpreted⟩ := exported
      rw [← List.singleton_append, exportsOf_append, exportsOf_body, List.map_append, ih]
      by_cases same : written.1 = block
      · rw [if_pos same, List.filter_cons_of_pos (by simpa using same)]
        change procedure.body = .code written.2 at interpreted
        simp only [List.map_cons, List.map_nil, interpreted, List.singleton_append]
      · rw [if_neg same, List.filter_cons_of_neg (by simpa using same)]
        rfl

theorem Flattened.exportsOf {docs : List Document} {m : Module} (flattened : Flattened docs m)
    (block : String) :
    (Markup.exportsOf m.exports block).map (·.body) = (bodiesOf docs block).map .code := by
  induction flattened with
  | @root doc bodies root written _ =>
      have ignored : Markup.exportsOf [(Module.rootName, root)] block = [] := rfl
      rw [exportsOf_append, ignored, List.append_nil, exportsOf_written written]
      exact congrArg (List.map Body.code) (List.append_nil _).symm
  | @child doc docs bodies inherited written _ ih =>
      rw [exportsOf_append, List.map_append, exportsOf_written written, ih, ← List.map_append]
      rfl

theorem get?_ofBodies_eq_none_iff (bodies : List (String × Procedure)) (block : String) :
    (Blocks.ofBodies bodies).get? block = none ↔
      (bodies.filter (·.1 = block)).map (·.2) = [] := by
  induction bodies with
  | nil => exact ⟨fun _ => rfl, fun _ => rfl⟩
  | cons body rest ih =>
      change ((Blocks.ofBodies rest).insert body.1 _).get? block = none ↔ _
      rw [Dict.get?_insert]
      by_cases same : block = body.1
      · rw [if_pos same, List.filter_cons_of_pos (by simpa using same.symm)]
        constructor
        · intro impossible
          cases impossible
        · intro impossible
          cases impossible
      · rw [if_neg same, List.filter_cons_of_neg (by simpa using Ne.symm same)]
        exact ih

/-- The module of a chain of sound documents can be sorted, and the form is that of the chain. -/
theorem Flattened.compiled {docs : List Document} {m : Module} (flattened : Flattened docs m)
    (sound : ∀ doc ∈ docs, doc.Sound) : ∃ form, m.compiled = .ok form ∧ Flattens form docs := by
  obtain ⟨root, last, read, same, interpreted⟩ := flattened.readRoot sound
  refine ⟨⟨root, .ofBodies m.bodies⟩, ?_, ⟨last, same, interpreted⟩, ?_, ?_⟩
  · unfold Module.compiled
    rw [read]
    rfl
  · intro block
    unfold Blocks.stack
    rw [Blocks.stack_ofBodies]
    exact flattened.exportsOf block
  · intro block
    rw [get?_ofBodies_eq_none_iff]
    have bodies := flattened.exportsOf block
    change (Markup.exportsOf m.exports block).map (·.body) = _ at bodies
    change Markup.exportsOf m.exports block = [] ↔ _
    rw [← List.map_eq_nil_iff, bodies, List.map_eq_nil_iff, bodiesOf, List.flatMap_eq_nil_iff]

theorem nextBody_eq_head? (behind : List Code) (older : List Document) (block : String) :
    nextBody behind older block = (behind ++ bodiesOf older block).head? := by
  rw [List.head?_append, bodiesOf, List.head?_flatMap]
  rfl

/-- In the stacks of a chain, behind each body stands the one that follows it in the chain. -/
theorem Stacked.super {docs newer older : List Document} {doc : Document} {blocks : Blocks}
    (stacked : Stacked docs blocks) (chain : docs = newer ++ doc :: older) {block : String}
    {front behind : List Code} {body : Code} (written : doc.bodiesOf block = front ++ body :: behind) :
    let depth := (bodiesOf newer block).length + front.length
    ∃ procedure, procedure.body = .code body ∧
      (blocks.stack block)[depth]? = some procedure ∧
      ∀ context : Context, context.blocks = blocks →
        match nextBody behind older block with
        | some next => ∃ other, other.body = .code next ∧
          context.super ⟨block, depth, procedure⟩ = .ok ⟨block, depth + 1, other⟩
        | none => context.super ⟨block, depth, procedure⟩ = .error (.noSuperBlock block) := by
  intro depth
  let above := bodiesOf newer block ++ front
  have length : above.length = depth := List.length_append
  have split : bodiesOf docs block = above ++ body :: (behind ++ bodiesOf older block) := by
    rw [chain, bodiesOf, List.flatMap_append, List.flatMap_cons, written]
    simp only [above, bodiesOf, List.append_assoc, List.cons_append]
  have bodies := stacked block
  rw [split] at bodies
  have here : ((blocks.stack block)[depth]?).map (·.body) = some (.code body) := by
    rw [← List.getElem?_map, bodies, List.getElem?_map, ← length, List.getElem?_append_right
      (Nat.le_refl _), Nat.sub_self]
    rfl
  have further : ((blocks.stack block)[depth + 1]?).map (·.body) =
      (nextBody behind older block).map .code := by
    rw [← List.getElem?_map, bodies, List.getElem?_map, ← length, List.getElem?_append_right
      (Nat.le_add_right _ 1), Nat.add_sub_cancel_left, nextBody_eq_head?, List.head?_eq_getElem?]
    rfl
  obtain ⟨procedure, stands, interpreted⟩ := Option.map_eq_some_iff.1 here
  refine ⟨procedure, interpreted, stands, ?_⟩
  intro context same
  subst same
  have moved : context.super ⟨block, depth, procedure⟩ = _ := Context.super_eq stands
  rw [moved]
  cases following : nextBody behind older block with
  | none =>
      rw [following] at further
      rw [Option.map_eq_none_iff.1 further]
  | some next =>
      rw [following] at further
      obtain ⟨other, behind, alsoInterpreted⟩ := Option.map_eq_some_iff.1 further
      rw [behind]
      exact ⟨other, alsoInterpreted, rfl⟩

section Compiling

variable (setting : Setting) (calls : Calls)

theorem exports_run (next : List (String × Procedure) → Recipe) (blocks : List (String × Code))
    (state : State) :
    ∃ made after, List.Forall₂ Exported blocks made ∧ state.Extends after [] ∧
      (Recipe.exports next (blocks.map fun block =>
        (Module.bodyName block.1, .fresh (.code block.2)))).run setting calls compiler state =
        (next made).run setting calls compiler after := by
  induction blocks generalizing next state with
  | nil => exact ⟨[], state, .nil, .refl state, rfl⟩
  | cons block rest ih =>
      let issued := state.newProcedure (.code block.2)
      obtain ⟨made, after, written, grown, same⟩ :=
        ih (fun behind => next ((Module.bodyName block.1, issued.1) :: behind)) issued.2
      have first : state.Extends issued.2 [] := ⟨state.procedures + 1, rfl⟩
      exact ⟨_ :: made, after, .cons ⟨rfl, rfl⟩ written, first.trans grown, same⟩

/-- Compiling a text first makes the procedures of its blocks. -/
theorem recipe_run {text : String} {doc : Document} (parsed : Document.parse text = .ok doc)
    (state : State) :
    ∃ made after, List.Forall₂ Exported doc.blocks made ∧ state.Extends after [] ∧
      (recipe text).run setting calls compiler state =
        (doc.finish made).run setting calls compiler after := by
  unfold recipe
  rw [parsed]
  exact exports_run setting calls doc.finish doc.blocks state

theorem finish_run_root {doc : Document} (last : doc.parent = none)
    (made : List (String × Procedure)) (state : State) :
    ∃ root after, root.body = .code doc.root ∧ state.Extends after [] ∧
      (doc.finish made).run setting calls compiler state =
        some (.ok ⟨made ++ [(Module.rootName, root)]⟩, after) := by
  let issued := state.newProcedure (.code doc.root)
  refine ⟨issued.1, issued.2, rfl, ⟨state.procedures + 1, rfl⟩, ?_⟩
  unfold Document.finish
  rw [last]
  rfl

/-- A text that extends another goes on with the text that the environment has for it. -/
theorem finish_run_child {doc : Document} {parent : String} (child : doc.parent = some parent)
    (made : List (String × Procedure)) (state : State) :
    (doc.finish made).run setting calls compiler state =
      match setting.fetch calls parent false (state.note (.request parent)) with
      | none => none
      | some (.error error, after) => some (.error error, after)
      | some (.ok template, after) =>
        match calls.compile compiler parent template.source.text after with
        | none => none
        | some (.error error, final) => some (.error error, final)
        | some (.ok inherited, final) => some (.ok ⟨made ++ inherited.exports⟩, final) := by
  unfold Document.finish
  rw [child]
  change (Run.attempt (setting.fetch calls parent false) >>= _) (state.note (.request parent)) = _
  cases fetched : setting.fetch calls parent false (state.note (.request parent)) with
  | none => exact Run.bind_of_none _ (Run.attempt_of_none fetched)
  | some outcome =>
      obtain ⟨result, after⟩ := outcome
      refine (Run.bind_of_ok _ (Run.attempt_of_some fetched)).trans ?_
      cases result with
      | error error => rfl
      | ok template =>
          cases answered : calls.compile compiler parent template.source.text after with
          | none =>
              refine (Run.bind_of_none _ (Run.attempt_of_none answered)).trans ?_
              simp only [answered]
          | some outcome =>
              obtain ⟨answer, final⟩ := outcome
              refine (Run.bind_of_ok _ (Run.attempt_of_some answered)).trans ?_
              simp only [answered]
              cases answer <;> rfl

end Compiling

end Stencil.Markup
