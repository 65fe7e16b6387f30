import Stencil.Proofs.Lookup

set_option autoImplicit false

/-
Directories are searched in order, and the first one that has the file of a template answers for it.
One that lacks the file is passed over, as long as nothing but a missing name keeps the search from
finding out. A path that leads through a file, or that the file system does not accept, ends the
search with an error, although it leads to no file either.
-/

namespace Stencil

def Path.below (directory name : String) : String :=
  (Path.segments name).foldl Path.push directory

def Tree.isFile (tree : Tree) (path : String) : Bool :=
  match tree.find path with
  | .ok (.file _ _) => true
  | _ => false

/-- Whether the path leads nowhere, for another reason than that a name on it is missing. -/
def Tree.isObstructed (tree : Tree) (path : String) : Bool :=
  match tree.find path with
  | .error obstacle => obstacle ≠ .missing
  | .ok _ => false

/-- What a search makes of the bytes of the file that it has found. -/
def Directory.ofFile (path : String) (stamp : Int) (content : ByteArray) :
    Except Error (Option Source) :=
  match String.fromUTF8? content with
  | some text => .ok (some ⟨text, some path, some (.modified path (some stamp))⟩)
  | none => .error .unreadableTemplate

theorem Path.join?_of_allowed {name : String} (allowed : (segments name).all isAllowed = true)
    (directory : String) : join? directory name = some (below directory name) := by
  unfold join? below
  rw [if_pos allowed]

namespace Directory

variable {tree : Tree} {name : String} (allowed : (Path.segments name).all Path.isAllowed = true)

/-- In a tree that does not change it does not matter which step a search is at. -/
theorem searchFrom_step (directories : List String) (step other : Nat) :
    searchFrom (fun _ => tree) name step directories =
      searchFrom (fun _ => tree) name other directories := by
  induction directories generalizing step other with
  | nil => rfl
  | cons directory rest ih =>
      unfold searchFrom
      rw [ih (step + 1) (other + 1), ih (step + 3) (other + 3)]

include allowed

/-- What is found under the first directory decides whether the others are searched. -/
theorem search_cons (directory : String) (rest : List String) :
    search tree (directory :: rest) name =
      match tree.find (Path.below directory name) with
      | .ok (.file stamp content) => ofFile (Path.below directory name) stamp content
      | .ok (.directory _ _) => search tree rest name
      | .error .missing => search tree rest name
      | .error _ => .error .unreadableTemplate := by
  have again : ∀ step, searchFrom (fun _ => tree) name step rest = search tree rest name :=
    fun step => searchFrom_step rest step 0
  rw [search, searchFrom, Path.join?_of_allowed allowed]
  cases found : tree.find (Path.below directory name) with
  | ok node =>
      cases node with
      | file stamp content =>
          simp only [Tree.isDirectory, Tree.readText, Tree.modified, found, ofFile]
          cases String.fromUTF8? content <;> rfl
      | directory stamp entries => simp only [Tree.isDirectory, found, ↓reduceIte, again]
  | error obstacle =>
      simp only [Tree.isDirectory, Tree.readText, found, again]
      cases obstacle <;> rfl

/-- A directory where the file should be, and nothing at all, are passed over. -/
theorem search_of_absent {directory : String}
    (noFile : tree.isFile (Path.below directory name) = false)
    (clear : tree.isObstructed (Path.below directory name) = false) (rest : List String) :
    search tree (directory :: rest) name = search tree rest name := by
  rw [search_cons allowed]
  unfold Tree.isFile at noFile
  unfold Tree.isObstructed at clear
  cases found : tree.find (Path.below directory name) with
  | ok node =>
      rw [found] at noFile
      cases node with
      | file stamp content => cases noFile
      | directory stamp entries => rfl
  | error obstacle =>
      rw [found] at clear
      obtain rfl : obstacle = .missing := by simpa using clear
      rfl

/-- Any other obstacle ends the search. -/
theorem search_of_obstructed {directory : String}
    (obstructed : tree.isObstructed (Path.below directory name) = true) (rest : List String) :
    search tree (directory :: rest) name = .error .unreadableTemplate := by
  rw [search_cons allowed]
  unfold Tree.isObstructed at obstructed
  cases found : tree.find (Path.below directory name) with
  | ok node =>
      rw [found] at obstructed
      cases obstructed
  | error obstacle =>
      rw [found] at obstructed
      cases obstacle with
      | missing => exact absurd obstructed (by decide)
      | notDirectory | tooLong | badName | notFile | notText => rfl

/-- Directories without the file, with nothing else in the way, are passed over. -/
theorem search_append {front : List String}
    (noFile : ∀ directory ∈ front, tree.isFile (Path.below directory name) = false)
    (clear : ∀ directory ∈ front, tree.isObstructed (Path.below directory name) = false)
    (back : List String) : search tree (front ++ back) name = search tree back name := by
  induction front with
  | nil => rfl
  | cons directory rest ih =>
      obtain ⟨first, others⟩ := List.forall_mem_cons.1 noFile
      obtain ⟨firstClear, othersClear⟩ := List.forall_mem_cons.1 clear
      rw [List.cons_append, search_of_absent allowed first firstClear, ih others othersClear]

end Directory

/-- The search for a template whose name may be searched for. It ends at the first directory under
which the name leads to a file, or to an obstacle other than a missing name: at a file with its text
or, if it is none, with an error, and at an obstacle with an error. If it comes to the end of the
directories, the loaders behind are asked. -/
theorem search_ends_at_first (tree : Tree) (directories : List String) {name : String}
    (allowed : (Path.segments name).all Path.isAllowed = true) :
    (∀ front directory back,
      directories = front ++ directory :: back →
      (∀ other ∈ front, tree.isFile (Path.below other name) = false) →
      (∀ other ∈ front, tree.isObstructed (Path.below other name) = false) →
      (∀ stamp content, tree.find (Path.below directory name) = .ok (.file stamp content) →
        Directory.search tree directories name =
          Directory.ofFile (Path.below directory name) stamp content) ∧
      (tree.isObstructed (Path.below directory name) = true →
        Directory.search tree directories name = .error .unreadableTemplate)) ∧
    ((∀ other ∈ directories, tree.isFile (Path.below other name) = false) →
      (∀ other ∈ directories, tree.isObstructed (Path.below other name) = false) →
      Directory.search tree directories name = .ok none ∧
      ∀ (sources : Sources) (loaders : List Loader), sources.files = tree →
        Loader.find sources name (.directories directories :: loaders) =
          Loader.find sources name loaders) := by
  constructor
  · intro front directory back order noFile clear
    rw [order, Directory.search_append allowed noFile clear]
    constructor
    · intro stamp content found
      rw [Directory.search_cons allowed, found]
    · intro obstructed
      exact Directory.search_of_obstructed allowed obstructed back
  · intro noFile clear
    have nothing : Directory.search tree directories name = .ok none := by
      have passed := Directory.search_append allowed noFile clear []
      rw [List.append_nil] at passed
      exact passed
    refine ⟨nothing, ?_⟩
    intro sources loaders same
    have got : (Loader.directories directories).get sources name = .ok none := by
      rw [← nothing, ← same]
      rfl
    rw [Loader.find, got]

/-- The tree once a text was written to a file, if that is possible. -/
def Tree.withText (tree : Tree) (stamp : Int) (path text : String) : Tree :=
  (tree.write 0 path stamp text.toUTF8).toOption.getD tree

/-- The file system with text files, all of them modified at the same time. -/
def Tree.ofFiles (files : List (String × String)) : Tree :=
  files.foldl (fun tree file => tree.withText 0 file.1 file.2) .empty

/-- A directory that does not exist is passed over, and so is one with a directory where the file
should be. -/
theorem search_ends_at_first_third :
    let tree := Tree.ofFiles [("drafts/page/main/old", "a draft"), ("pages/page/main", "the page")]
    let found : Source :=
      ⟨"the page", some "pages/page/main", some (.modified "pages/page/main" (some 0))⟩
    (Path.segments "page/main").all Path.isAllowed = true ∧
    tree.isDirectory (Path.below "drafts" "page/main") = true ∧
    Directory.search tree ["nowhere", "drafts", "pages"] "page/main" = .ok (some found) := by
  intro tree found
  have allowed : (Path.segments "page/main").all Path.isAllowed = true := by decide +kernel
  have noFile : ∀ other ∈ ["nowhere", "drafts"],
      tree.isFile (Path.below other "page/main") = false := by decide +kernel
  have clear : ∀ other ∈ ["nowhere", "drafts"],
      tree.isObstructed (Path.below other "page/main") = false := by decide +kernel
  have there : tree.find (Path.below "pages" "page/main") =
      .ok (.file 0 "the page".toUTF8) := by rfl
  obtain ⟨first, -⟩ := search_ends_at_first tree ["nowhere", "drafts", "pages"] allowed
  obtain ⟨answers, -⟩ := first ["nowhere", "drafts"] "pages" [] rfl noFile clear
  refine ⟨allowed, by decide +kernel, ?_⟩
  rw [answers 0 _ there]
  decide +kernel

/-- A file on the way hides a template in a later directory, and from the loaders behind. The path
leads to no file, but the search cannot go on. -/
theorem file_on_the_way_hides_template :
    let tree := Tree.ofFiles [("first/page", "a file"), ("second/page/main", "the page")]
    let behind : Loader := .custom "behind" fun name => .ok (some (.ofText name))
    (Path.segments "page/main").all Path.isAllowed = true ∧
    tree.isFile (Path.below "first" "page/main") = false ∧
    tree.readText (Path.below "second" "page/main") = .ok "the page" ∧
    Directory.search tree ["first", "second"] "page/main" = .error .unreadableTemplate ∧
    Loader.find ⟨[], tree, ∅⟩ "page/main" [.directories ["first"], behind] =
      .error .unreadableTemplate := by
  intro tree behind
  refine ⟨by decide +kernel, by decide +kernel, by decide +kernel, by decide +kernel, ?_⟩
  have got : (Loader.directories ["first"]).get ⟨[], tree, ∅⟩ "page/main" =
      .error .unreadableTemplate := by decide +kernel
  rw [Loader.find, got]

end Stencil
