import Stencil.Error
import Stencil.Reason

set_option autoImplicit false

namespace Stencil

/-- A value, or the reason why there is none. -/
abbrev Data := Except String Value

def Data.toValue : Data → Except Error Value
  | .ok value => .ok value
  | .error reason => .error (.notConvertible (Reason.ofChars reason.toList).message)

def Data.orNull : Data → Value
  | .ok value => value
  | .error _ => .null

/-- The variables in render data: those of a dictionary, and none in null. -/
def Value.toVariables : Value → Except Error (Dict Value)
  | .object fields => .ok fields
  | .null => .ok ∅
  | value => .error (.dataNotMap value.kindName)

end Stencil
