import Stencil.Filter.Basic
import Stencil.Html.Escape
import Stencil.Text.Casing
import Stencil.Text.Replace

set_option autoImplicit false

/-
The built-in filters. Each looks at its arguments first, at their number and then at their kinds,
and only then at the value. All but `length`, `default` and `join` work on the output form of the
value and so take every value.
-/

namespace Stencil.Filter

def tooManyArguments (name : String) (limit : Nat) : Error :=
  .new .invalidArguments (name ++ " takes at most " ++ toString limit ++ " argument(s)")

def notText (name : String) (arg : Value) : Error :=
  .new .invalidArguments (name ++ " expects a string argument, got " ++ arg.kindName)

def replaceNeedsTwo : Error := .new .invalidArguments "replace requires two arguments"

def noLength (value : Value) : Error :=
  .new .invalidOperation ("cannot calculate length of value of type " ++ value.kindName)

def notJoinable (value : Value) : Error :=
  .new .invalidOperation ("cannot join value of type " ++ value.kindName)

def atMost (name : String) (limit : Nat) (args : List Value) : Except Error Unit :=
  if args.length > limit then .error (tooManyArguments name limit) else .ok ()

/-- The argument at an index, which has to be a text if it is there. -/
def textArg (name : String) (args : List Value) (index : Nat) : Except Error (Option String) :=
  match args[index]? with
  | none => .ok none
  | some (.string text) => .ok (some text)
  | some arg => .error (notText name arg)

/-- A filter without arguments that maps the output form of the value. -/
def onOutput (name : String) (f : List Char → List Char) : Filter where
  apply value args := do
    atMost name 0 args
    return .string (String.ofList (f value.output.toList))

def upper : Filter := onOutput "upper" Text.upper

def lower : Filter := onOutput "lower" Text.lower

def title : Filter := onOutput "title" Text.title

/-- The first character in upper case and the others in lower case. -/
def capitalize : Filter := onOutput "capitalize" Text.capitalize

/-- Strips white space from both ends, or the characters of the argument instead. -/
def trim : Filter where
  apply value args := do
    atMost "trim" 1 args
    let strip ← textArg "trim" args 0
    let kept := match strip with
      | some chars => Text.stripBoth chars.toList.contains value.output.toList
      | none => Text.trim value.output.toList
    return .string (String.ofList kept)

def replace : Filter where
  apply value args := do
    atMost "replace" 2 args
    let pattern ← textArg "replace" args 0
    let replacement ← textArg "replace" args 1
    match pattern, replacement with
    | some pattern, some replacement =>
      return .string (String.ofList
        (Text.replace pattern.toList replacement.toList value.output.toList))
    | _, _ => throw replaceNeedsTwo

def length : Filter where
  apply value args := do
    atMost "length" 0 args
    match value with
    | .string text => return .number (.int text.length)
    | .array items => return .number (.int items.length)
    | .object fields => return .number (.int fields.size)
    | _ => throw (noLength value)

/-- The value itself unless it is empty, and then the argument, or the empty text without one. -/
def default : Filter where
  apply value args := do
    atMost "default" 1 args
    if value.isEmpty then return args.head?.getD (.string "") else return value

/-- The output forms of the items, or the characters of a text, with the argument between them. -/
def join : Filter where
  apply value args := do
    atMost "join" 1 args
    let joiner := (← textArg "join" args 0).getD ""
    match value with
    | .null => return .string ""
    | .string text => return .string (String.intercalate joiner (text.toList.map Char.toString))
    | .array items => return .string (String.intercalate joiner (items.map Value.output))
    | _ => throw (notJoinable value)

def escape : Filter where
  apply value args := do
    atMost "escape" 0 args
    return .string (Html.escape value.output)

/-- The built-in filters by name; `e` is short for `escape`. -/
def builtin : Filters := .ofList [
  ("upper", upper), ("lower", lower), ("title", title), ("capitalize", capitalize),
  ("trim", trim), ("replace", replace), ("length", length), ("default", default),
  ("join", join), ("escape", escape), ("e", escape)]

end Stencil.Filter
