import Stencil.Dict
import Stencil.Files.Path

set_option autoImplicit false

/-
A file system: a tree of directories and files. Every node has the time of its last modification.
A path is walked segment by segment from the root of the tree, through the working directory if it
is relative, and the walk says why it failed.
-/

namespace Stencil

/-- A file with its bytes or a directory with its entries, and when it was modified. -/
inductive Tree where
  | file (stamp : Int) (content : ByteArray)
  | directory (stamp : Int) (entries : Dict Tree)

/-- Why a path leads nowhere, or to something that is no readable text. -/
inductive Obstacle where
  /-- There is nothing of that name. -/
  | missing
  /-- A file stands where a directory is needed. -/
  | notDirectory
  /-- A segment or the whole path is longer than the file system allows. -/
  | tooLong
  /-- The path holds a character that no name can hold. -/
  | badName
  /-- A directory stands where a file is needed. -/
  | notFile
  /-- The bytes of the file are no text. -/
  | notText
  deriving DecidableEq, Repr

namespace Tree

/-- The most bytes in a segment. -/
def longestName : Nat := 255

/-- The most bytes in a path. -/
def longestPath : Nat := 4095

def empty : Tree :=
  Path.home.foldr (fun name tree => .directory 0 ((∅ : Dict Tree).insert name tree))
    (.directory 0 ∅)

instance : Inhabited Tree := ⟨empty⟩

/-- Walks from a node, whose parents are given nearest first. Each segment, even one that stays
where it is, needs a directory to stand in. The root is its own parent. -/
def walk (parents : List Tree) (node : Tree) : List String → Except Obstacle Tree
  | [] => .ok node
  | segment :: rest =>
    match node with
    | .file _ _ => .error .notDirectory
    | .directory _ entries =>
      if segment = "" ∨ segment = "." then walk parents node rest
      else if segment = ".." then
        match parents with
        | [] => walk [] node rest
        | parent :: parents => walk parents parent rest
      else if segment.utf8ByteSize > longestName then .error .tooLong
      else
        match entries.get? segment with
        | none => .error .missing
        | some child => walk (node :: parents) child rest

def checkPath (path : String) : Except Obstacle Unit :=
  if path.toList.contains '\x00' then .error .badName
  else if path.utf8ByteSize > longestPath then .error .tooLong
  else if path = "" then .error .missing
  else .ok ()

def find (tree : Tree) (path : String) : Except Obstacle Tree := do
  checkPath path
  walk [] tree (Path.way path)

def isDirectory (tree : Tree) (path : String) : Bool :=
  match tree.find path with
  | .ok (.directory _ _) => true
  | _ => false

/-- When the node at the path was modified, if there is one. -/
def modified (tree : Tree) (path : String) : Option Int :=
  match tree.find path with
  | .ok (.file stamp _) => some stamp
  | .ok (.directory stamp _) => some stamp
  | .error _ => none

def readText (tree : Tree) (path : String) : Except Obstacle String :=
  match tree.find path with
  | .ok (.file _ content) =>
    match String.fromUTF8? content with
    | some text => .ok text
    | none => .error .notText
  | .ok (.directory _ _) => .error .notFile
  | .error obstacle => .error obstacle

/-- Changes the node at the end of names that lead through directories; `none` stands for a node
that is not there. The tree itself stays, and so does what the names do not reach. -/
def alter (change : Option Tree → Option Tree) : List String → Tree → Tree
  | _, .file stamp content => .file stamp content
  | [], .directory stamp entries => .directory stamp entries
  | [name], .directory stamp entries =>
    match change (entries.get? name) with
    | some node => .directory stamp (entries.insert name node)
    | none => .directory stamp (entries.erase name)
  | name :: rest, .directory stamp entries =>
    match entries.get? name with
    | some child => .directory stamp (entries.insert name (alter change rest child))
    | none => .directory stamp entries

/-- The node at the end of names that lead through directories, if it is there. -/
def node? : List String → Tree → Option Tree
  | [], tree => some tree
  | _, .file _ _ => none
  | name :: rest, .directory _ entries => (entries.get? name).bind (node? rest)

def put (tree : Tree) (place : List String) (node : Tree) : Tree :=
  tree.alter (fun _ => some node) place.reverse

/-- Takes steps from a place and makes each directory that is missing on the way, also one that a
later step leaves again, at the time `now`. Gives the tree and the place at the end. -/
def makeWay (now : Int) (tree : Tree) (place : List String) :
    List String → Except Obstacle (Tree × List String)
  | [] => .ok (tree, place)
  | step :: rest =>
    let next := Path.turn place step
    if step.utf8ByteSize > longestName then .error .tooLong
    else
      match tree.node? next.reverse with
      | some (.directory _ _) => makeWay now tree next rest
      | some (.file _ _) => .error .notDirectory
      | none => makeWay now (tree.put next (.directory now ∅)) next rest

def write (tree : Tree) (now : Int) (path : String) (stamp : Int) (content : ByteArray) :
    Except Obstacle Tree := do
  checkPath path
  match (Path.steps path).getLast? with
  | none => throw .notFile
  | some name =>
    let (made, place) ← makeWay now tree [] (Path.steps path).dropLast
    if name.utf8ByteSize > longestName then throw .tooLong
    match made.node? (Path.turn place name).reverse with
    | some (.directory _ _) => throw .notFile
    | _ => return made.put (Path.turn place name) (.file stamp content)

/-- Makes a directory, and those on the way to it, at the time `now`. -/
def makeDirectory (tree : Tree) (now : Int) (path : String) : Except Obstacle Tree := do
  checkPath path
  return (← makeWay now tree [] (Path.steps path)).1

/-- Removes a file, or a directory with all that is in it. The working directory stays. -/
def remove (tree : Tree) (path : String) : Except Obstacle Tree := do
  let _ ← tree.find path
  let place := Path.placeOf (Path.steps path)
  if place.isSuffixOf Path.home.reverse then throw .notFile
  return tree.alter (fun _ => none) place.reverse

end Tree

end Stencil
