import Stencil.Source

set_option autoImplicit false

namespace Stencil

/-- A template, told apart from all others by its number. -/
structure Template where
  id : Nat
  name : String
  source : Source
  deriving DecidableEq, Repr

def Template.inspect (template : Template) (compiled : Bool) : Inspection :=
  .record "Template" [
    ("name", .text template.name),
    ("path", .optional (template.source.path.map .text)),
    ("compiled", .truth compiled)]

end Stencil
