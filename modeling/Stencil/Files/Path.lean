import Stencil.Text.Blank

set_option autoImplicit false

namespace Stencil.Path

/-- The segments of a text between its slashes, empty ones included. -/
def segments (text : String) : List String :=
  (Text.splitAt (· = '/') text.toList).map String.ofList

def isAbsolute (path : String) : Bool := path.toList.head? = some '/'

/-- The names from the root to the working directory. No path can hold them, so that only relative
paths lead there. -/
def home : List String := ["\x00", "\x00"]

/-- The segments from the root to the end of a path. -/
def way (path : String) : List String :=
  if isAbsolute path then segments path else home ++ segments path

/-- The segments on the way that lead somewhere: empty ones and single dots stay where they are. -/
def steps (path : String) : List String :=
  (way path).filter fun segment => segment ≠ "" ∧ segment ≠ "."

/-- Where a step leads from a place: two dots lead back, but not beyond the root, and all else
leads on. A place is given by the names on the way to it, the last one first. -/
def turn (place : List String) (step : String) : List String :=
  if step = ".." then place.tail else step :: place

def placeOf (steps : List String) : List String := steps.foldl turn []

/-- Whether the path ends where a segment can follow without a slash between. -/
def isOpen (path : String) : Bool := path.toList.getLast?.all (· = '/')

/-- The path with a segment added. An empty segment leaves a slash at the end. -/
def push (path segment : String) : String :=
  if isOpen path then path ++ segment else path ++ "/" ++ segment

/-- Whether a segment may stand in a template's name: it is not hidden and holds no backslash. -/
def isAllowed (segment : String) : Bool :=
  segment.toList.head? ≠ some '.' && !segment.toList.contains '\\'

/-- The path of a template below a directory, if each segment of its name is allowed. -/
def join? (directory name : String) : Option String :=
  if (segments name).all isAllowed then some ((segments name).foldl push directory) else none

end Stencil.Path
