import Stencil.Module

set_option autoImplicit false

namespace Stencil

/-- A compilation from some point on. -/
inductive Recipe where
  /-- It is over. -/
  | done (result : Except Error Module)
  /-- It makes a new procedure. -/
  | make (body : Body) (next : Procedure → Recipe)
  /-- It requests a template, compiled at once when `eager` is set. -/
  | fetch (name : String) (eager : Bool) (next : Except Error Template → Recipe)
  /-- It looks around. -/
  | look (next : Overview → Recipe)
  /-- It has all templates forgotten. -/
  | clear (next : Recipe)
  /-- It has a template compiled. -/
  | compile (template : Template) (next : Except Error Unit → Recipe)
  /-- It renders a template. -/
  | render (template : Template) (data : Data) (next : Except Error String → Recipe)
  /-- It compiles another text with the same compiler. -/
  | again (name text : String) (next : Except Error Module → Recipe)

/-- A compiler is the recipe it has for each name and text. -/
structure Compiler where
  recipe : String → String → Recipe

namespace Recipe

/-- An export to be: a body for a new procedure, or a procedure that is there already. -/
inductive Draft where
  | fresh (body : Body)
  | shared (procedure : Procedure)

/-- Makes the procedures of drafts, in order, and goes on with the exports. -/
def exports (next : List (String × Procedure) → Recipe) : List (String × Draft) → Recipe
  | [] => next []
  | (name, .fresh body) :: rest =>
    make body fun procedure => exports (fun behind => next ((name, procedure) :: behind)) rest
  | (name, .shared procedure) :: rest =>
    exports (fun behind => next ((name, procedure) :: behind)) rest

def build (drafts : List (String × Draft)) : Recipe :=
  exports (fun made => done (.ok ⟨made⟩)) drafts

end Recipe

end Stencil
