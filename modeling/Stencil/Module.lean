import Stencil.Render.Context

set_option autoImplicit false

/-
Modules: what a compiler makes of a template. A module is a list of procedures under names. One of
them is the root, those whose names begin with `b_` are bodies of blocks, the most derived first,
and all others are ignored.
-/

namespace Stencil

/-- Procedures under names, in the order they were exported. -/
structure Module where
  exports : List (String × Procedure)

/-- What the name of an export makes it. -/
inductive Role where
  | root
  | body (block : String)
  | ignored
  deriving DecidableEq, Repr

def Role.ofName (name : String) : Role :=
  if name = "root" then root
  else
    match name.toList with
    | 'b' :: '_' :: block => body (String.ofList block)
    | _ => ignored

/-- The executable form of a template: its root and the stacks of its blocks. -/
structure Compiled where
  root : Procedure
  blocks : Blocks

/-- The stacks of bodies: each block has the bodies of its name, in order. -/
def Blocks.ofBodies (bodies : List (String × Procedure)) : Blocks :=
  bodies.foldr (fun body blocks =>
    blocks.insert body.1 (body.2 :: (blocks.get? body.1).getD [])) ∅

/-- The stack of a block holds the bodies of its name and no others, in order. -/
theorem Blocks.stack_ofBodies (bodies : List (String × Procedure)) (block : String) :
    ((Blocks.ofBodies bodies).get? block).getD [] =
      (bodies.filter (·.1 = block)).map (·.2) := by
  induction bodies with
  | nil => rfl
  | cons body rest ih =>
    change (((Blocks.ofBodies rest).insert body.1 _).get? block).getD [] = _
    rw [Dict.get?_insert]
    by_cases same : block = body.1
    · rw [if_pos same, List.filter_cons_of_pos (by simp [same]), Option.getD_some,
        List.map_cons, ← ih, same]
      rfl
    · rw [if_neg same, List.filter_cons_of_neg (by simpa using Ne.symm same), ih]

namespace Module

def empty : Module := ⟨[]⟩

def rootName : String := "root"

def bodyName (block : String) : String := "b_" ++ block

/-- The name of a root has the role of one. -/
theorem role_rootName : Role.ofName rootName = .root := rfl

/-- The name of a body has the role of one, whatever the block is called. -/
theorem role_bodyName (block : String) : Role.ofName (bodyName block) = .body block := by
  have chars : (bodyName block).toList = 'b' :: '_' :: block.toList := by
    simp [bodyName]
  have differs : bodyName block ≠ "root" := by
    intro same
    rw [same] at chars
    simp at chars
  simp only [Role.ofName, differs, ↓reduceIte, chars, String.ofList_toList]

/-- Reads the name of one more export behind those that gave the root. There is one root at most,
and each block has a name. -/
def readRoot (root : Option Procedure) (entry : String × Procedure) :
    Except Error (Option Procedure) :=
  match Role.ofName entry.1 with
  | .root => if root.isSome then .error .secondRoot else .ok (some entry.2)
  | .body block => if block = "" then .error .unnamedBlock else .ok root
  | .ignored => .ok root

def bodies (m : Module) : List (String × Procedure) :=
  m.exports.filterMap fun entry =>
    match Role.ofName entry.1 with
    | .body block => some (block, entry.2)
    | _ => none

/-- Sorts the exports into the root and the stacks of the blocks. -/
def compiled (m : Module) : Except Error Compiled := do
  match ← m.exports.foldlM readRoot none with
  | some root => return ⟨root, .ofBodies m.bodies⟩
  | none => throw .missingRoot

def inspect (m : Module) : Inspection := .names (m.exports.map (·.1))

end Module

end Stencil
