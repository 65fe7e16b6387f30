import Stencil.Error
import Stencil.Files.Tree
import Stencil.Source

set_option autoImplicit false

namespace Stencil.Directory

/-- Searches the directories for a template. Files may change while the search is under way:
`tree k` is the tree as the step number `k` finds it. -/
def searchFrom (tree : Nat → Tree) (name : String) (step : Nat) :
    List String → Except Error (Option Source)
  | [] => .ok none
  | directory :: rest =>
    match Path.join? directory name with
    | none => .ok none
    | some path =>
      if (tree step).isDirectory path then searchFrom tree name (step + 1) rest
      else
        let stamp := (tree (step + 1)).modified path
        match (tree (step + 2)).readText path with
        | .ok text => .ok (some ⟨text, some path, some (.modified path stamp)⟩)
        | .error .missing => searchFrom tree name (step + 3) rest
        | .error _ => .error .unreadableTemplate

/-- Searches the directories of a tree that does not change meanwhile. -/
def search (tree : Tree) (directories : List String) (name : String) :
    Except Error (Option Source) :=
  searchFrom (fun _ => tree) name 0 directories

/-- Whether the file at the path still has the modification time that was noted. -/
def isUnmodified (tree : Tree) (path : String) (stamp : Option Int) : Bool :=
  stamp.isSome && tree.modified path == stamp

def inspect (directories : List String) : Inspection :=
  .record "FileSystemLoader" [("search_paths", .names directories)]

end Stencil.Directory
