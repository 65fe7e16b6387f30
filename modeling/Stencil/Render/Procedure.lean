import Stencil.Render.Op
import Stencil.Render.Script

set_option autoImplicit false

namespace Stencil

/-- What a procedure does: interpret instructions, or run a script. -/
inductive Body where
  | code (ops : Code)
  | native (script : Script)

/-- A procedure with the number that tells it apart. -/
structure Procedure where
  id : Nat
  body : Body

def Body.code? : Body → Option Code
  | .code ops => some ops
  | .native _ => none

namespace Procedure

def same (a b : Procedure) : Bool := a.id == b.id

def inspect (procedure : Procedure) : Inspection :=
  match procedure.body with
  | .code ops => .tuple "Procedure" [Code.inspect ops]
  | .native _ => .atom "Procedure(<native>)"

end Procedure

end Stencil
