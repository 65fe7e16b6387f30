import Stencil.Error

set_option autoImplicit false

namespace Stencil

/-- A filter is what it does with a value and further arguments. -/
structure Filter where
  apply : Value → List Value → Except Error Value

abbrev Filters := Dict Filter

def Filter.inspect (_ : Filter) : Inspection := .atom "BoxedFilter"

end Stencil
