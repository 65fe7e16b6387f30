import Stencil.Decimal.Binary64
import Stencil.Dict

set_option autoImplicit false

namespace Stencil

inductive Number where
  | int (value : Int)
  | float (value : Decimal.Binary64)
  deriving DecidableEq, Repr

inductive Value where
  | null
  | bool (value : Bool)
  | number (value : Number)
  | string (text : String)
  | array (items : List Value)
  | object (fields : Dict Value)

instance : Inhabited Value := ⟨.null⟩

/-- Numbers of one kind are equal when they stand for the same number. -/
def Number.equals : Number → Number → Bool
  | .int a, .int b => a == b
  | .float a, .float b => a.equals b
  | _, _ => false

namespace Value

/-- What a value is called in messages. -/
def kindName : Value → String
  | null => "none"
  | bool _ => "bool"
  | number _ => "number"
  | string _ => "string"
  | array _ => "sequence"
  | object _ => "map"

/-- Null and the empty text count as empty. -/
def isEmpty : Value → Bool
  | null => true
  | string text => text.isEmpty
  | _ => false

mutual

/-- Equality of values: the two zeros are equal, and otherwise equal values are the same. -/
def equals : Value → Value → Bool
  | null, null => true
  | bool a, bool b => a == b
  | number a, number b => a.equals b
  | string a, string b => a == b
  | array a, array b => equalsItems a b
  | object ⟨a⟩, object ⟨b⟩ => equalsEntries a b
  | _, _ => false

def equalsItems : List Value → List Value → Bool
  | [], [] => true
  | a :: as, b :: bs => equals a b && equalsItems as bs
  | _, _ => false

def equalsEntries {below first : Option String} : Entries Value below → Entries Value first → Bool
  | .nil, .nil => true
  | .cons name _ a as, .cons other _ b bs => name == other && equals a b && equalsEntries as bs
  | _, _ => false

end

instance : BEq Value := ⟨equals⟩

/-- The value of a variable that nothing was given for. -/
def missing : Value := .string ""

end Value

end Stencil
