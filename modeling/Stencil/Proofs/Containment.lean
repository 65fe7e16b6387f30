import Stencil.Proofs.SearchOrder

set_option autoImplicit false

namespace Stencil

namespace Path

inductive Component where
  /-- The root of the file system. -/
  | root
  /-- The place where the path starts, if a single dot says so. -/
  | here
  /-- The directory around. -/
  | parent
  /-- What has the name. -/
  | named (name : String)
  deriving DecidableEq, Repr

/-- The component that a segment is anywhere in a path. An empty segment and a single dot are none. -/
def component? (segment : String) : Option Component :=
  if segment = "" ∨ segment = "." then none
  else if segment = ".." then some .parent
  else some (.named segment)

/-- The component before those of the segments: the root, or a single dot that the path begins
with. -/
def start (path : String) : List Component :=
  if isAbsolute path then [.root]
  else if (segments path).head? = some "." then [.here]
  else []

def components (path : String) : List Component :=
  start path ++ (segments path).filterMap component?

/-- The names in the name of a template: its segments, empty ones apart. -/
def names (name : String) : List String := (segments name).filter (· ≠ "")

/-- A segment that may not stand in the name of a template: it begins with a dot or contains a
backslash. -/
def IsForbidden (segment : String) : Prop :=
  segment.toList.head? = some '.' ∨ '\\' ∈ segment.toList

/-- The path lies below the directory, at the names of the template. -/
structure LiesBelow (directory name path : String) : Prop where
  /-- Its components are those of the directory and then the names, one for one. -/
  components : components path = components directory ++ (names name).map .named
  /-- It starts at the root only if the directory does. -/
  absolute : isAbsolute path = isAbsolute directory
  /-- The names are not hidden, and none of them is a way out. -/
  visible : ∀ segment ∈ names name, ¬ IsForbidden segment
  /-- In any tree, what the path leads to stands in what the directory leads to, under the names. -/
  inside : ∀ (tree node : Tree), tree.find path = .ok node →
    ∃ top, Tree.walk [] tree (way directory) = .ok top ∧ Tree.node? (names name) top = some node

theorem isAllowed_iff (segment : String) : isAllowed segment = true ↔ ¬ IsForbidden segment := by
  simp [isAllowed, IsForbidden]

theorem join?_eq_none_iff (directory name : String) :
    join? directory name = none ↔ ∃ segment ∈ segments name, IsForbidden segment := by
  unfold join?
  split
  · rename_i allowed
    simp only [reduceCtorEq, false_iff]
    rintro ⟨segment, member, forbidden⟩
    exact (isAllowed_iff segment).1 (List.all_eq_true.1 allowed segment member) forbidden
  · rename_i refused
    simp only [true_iff]
    by_contra free
    apply refused
    apply List.all_eq_true.2
    intro segment member
    exact (isAllowed_iff segment).2 fun forbidden => free ⟨segment, member, forbidden⟩

/-- A segment that can be pushed: no slash is in it, and it is not forbidden. -/
structure Pushable (segment : String) : Prop where
  plain : '/' ∉ segment.toList
  free : ¬ IsForbidden segment

theorem pushable_of_mem {name segment : String} (member : segment ∈ segments name)
    (free : ¬ IsForbidden segment) : Pushable segment where
  plain := by
    obtain ⟨piece, mem, rfl⟩ := List.mem_map.1 member
    intro slash
    rw [String.toList_ofList] at slash
    exact absurd (Text.uncut_of_mem_splitAt mem '/' slash) (by decide)
  free := free

theorem Pushable.ne_dot {segment : String} (pushable : Pushable segment) : segment ≠ "." := by
  rintro rfl
  exact pushable.free (Or.inl rfl)

theorem Pushable.ne_dots {segment : String} (pushable : Pushable segment) : segment ≠ ".." := by
  rintro rfl
  exact pushable.free (Or.inl rfl)

theorem segments_of_plain {segment : String} (plain : '/' ∉ segment.toList) :
    segments segment = [segment] := by
  have uncut : ∀ c ∈ segment.toList, decide (c = '/') = false := by
    intro c member
    apply decide_eq_false
    rintro rfl
    exact plain member
  rw [segments, Text.splitAt_of_uncut uncut, List.map_singleton, String.ofList_toList]

theorem segments_append_slash (front back : String) :
    segments (front ++ "/" ++ back) = segments front ++ segments back := by
  have cut : decide ('/' = '/') = true := rfl
  rw [segments, String.toList_append, String.toList_append, List.append_assoc]
  change (Text.splitAt _ (front.toList ++ '/' :: back.toList)).map _ = _
  rw [Text.splitAt_append_cons _ _ _ cut, List.map_append]
  rfl

theorem segments_ne_nil (path : String) : segments path ≠ [] := by
  intro empty
  exact Text.splitAt_ne_nil _ _ (List.map_eq_nil_iff.1 empty)

/-- A path that is open is empty or ends in a slash. -/
theorem isOpen_cases {path : String} (opened : isOpen path = true) :
    path = "" ∨ ∃ front, path = front ++ "/" := by
  unfold isOpen at opened
  cases last : path.toList.getLast? with
  | none =>
      left
      exact String.toList_eq_nil_iff.1 (List.getLast?_eq_none_iff.1 last)
  | some c =>
      right
      rw [last] at opened
      obtain rfl : c = '/' := by simpa using opened
      obtain ⟨front, same⟩ := List.getLast?_eq_some_iff.1 last
      refine ⟨String.ofList front, ?_⟩
      apply String.toList_injective
      rw [same, String.toList_append, String.toList_ofList]
      rfl

/-- A segment that is pushed comes behind the others, or it stands in for an empty one at the end. -/
theorem segments_push (path : String) {segment : String} (plain : '/' ∉ segment.toList) :
    segments (push path segment) = segments path ++ [segment] ∨
      ∃ front, segments path = front ++ [""] ∧ segments (push path segment) = front ++ [segment] := by
  unfold push
  split
  · rename_i opened
    right
    rcases isOpen_cases opened with rfl | ⟨front, rfl⟩
    · exact ⟨[], rfl, by rw [String.empty_append, segments_of_plain plain, List.nil_append]⟩
    · refine ⟨segments front, ?_, ?_⟩
      · have ended := segments_append_slash front ""
        rw [String.append_empty] at ended
        exact ended
      · rw [segments_append_slash, segments_of_plain plain]
  · left
    rw [segments_append_slash, segments_of_plain plain]

theorem isAbsolute_push (path : String) {segment : String} (plain : '/' ∉ segment.toList) :
    isAbsolute (push path segment) = isAbsolute path := by
  by_cases empty : path = ""
  · subst empty
    change isAbsolute ("" ++ segment) = false
    rw [String.empty_append, isAbsolute, decide_eq_false_iff_not]
    exact fun head => plain (List.mem_of_mem_head? head)
  · have chars : path.toList ≠ [] := fun none => empty (String.toList_eq_nil_iff.1 none)
    unfold isAbsolute push
    split <;> simp only [String.toList_append, List.append_assoc, List.head?_append_of_ne_nil _ chars]

theorem start_push (path : String) {segment : String} (pushable : Pushable segment) :
    start (push path segment) = start path := by
  have head : (segments (push path segment)).head? = some "." ↔ (segments path).head? = some "." := by
    rcases segments_push path pushable.plain with behind | ⟨front, old, new⟩
    · rw [behind, List.head?_append_of_ne_nil _ (segments_ne_nil path)]
    · rw [old, new]
      cases front with
      | nil => simp [pushable.ne_dot]
      | cons first rest => rfl
  unfold start
  rw [isAbsolute_push path pushable.plain]
  simp only [head]

/-- A segment that is pushed adds its component. -/
theorem components_push (path : String) {segment : String} (pushable : Pushable segment) :
    components (push path segment) = components path ++ (component? segment).toList := by
  have added : (segments (push path segment)).filterMap component? =
      (segments path).filterMap component? ++ (component? segment).toList := by
    have one : [segment].filterMap component? = (component? segment).toList := by
      rw [List.filterMap_cons]
      cases component? segment <;> rfl
    rcases segments_push path pushable.plain with behind | ⟨front, old, new⟩
    · rw [behind, List.filterMap_append, one]
    · have none : [""].filterMap component? = [] := rfl
      rw [old, new, List.filterMap_append, List.filterMap_append, one, none, List.append_nil]
  rw [components, components, start_push path pushable, added, List.append_assoc]

theorem components_foldl_push (path : String) {added : List String}
    (pushable : ∀ segment ∈ added, Pushable segment) :
    components (added.foldl push path) = components path ++ added.filterMap component? := by
  induction added generalizing path with
  | nil => exact (List.append_nil _).symm
  | cons segment rest ih =>
      obtain ⟨first, others⟩ := List.forall_mem_cons.1 pushable
      rw [List.foldl_cons, ih (push path segment) others, components_push path first,
        List.append_assoc, List.filterMap_cons]
      cases component? segment <;> rfl

theorem filterMap_component? {added : List String} (pushable : ∀ segment ∈ added, Pushable segment) :
    added.filterMap component? = (added.filter (· ≠ "")).map .named := by
  induction added with
  | nil => rfl
  | cons segment rest ih =>
      obtain ⟨first, others⟩ := List.forall_mem_cons.1 pushable
      by_cases empty : segment = ""
      · subst empty
        exact ih others
      · have named : component? segment = some (.named segment) := by
          simp [component?, empty, first.ne_dot, first.ne_dots]
        rw [List.filterMap_cons_some named, ih others, List.filter_cons_of_pos (by simpa using empty),
          List.map_cons]

theorem isAbsolute_foldl_push (path : String) {added : List String}
    (pushable : ∀ segment ∈ added, Pushable segment) :
    isAbsolute (added.foldl push path) = isAbsolute path := by
  induction added generalizing path with
  | nil => rfl
  | cons segment rest ih =>
      obtain ⟨first, others⟩ := List.forall_mem_cons.1 pushable
      rw [List.foldl_cons, ih (push path segment) others, isAbsolute_push path first.plain]

/-- What holds of the segments after a push holds of the way from the root. -/
theorem way_push (path : String) {segment : String} (plain : '/' ∉ segment.toList) :
    way (push path segment) = way path ++ [segment] ∨
      ∃ front, way path = front ++ [""] ∧ way (push path segment) = front ++ [segment] := by
  unfold way
  rw [isAbsolute_push path plain]
  split
  · exact segments_push path plain
  · rcases segments_push path plain with behind | ⟨front, old, new⟩
    · left
      rw [behind, List.append_assoc]
    · right
      exact ⟨home ++ front, by rw [old, List.append_assoc], by rw [new, List.append_assoc]⟩

end Path

namespace Tree

/-- A walk that gets as far as some segments goes on from where it is then; the others cannot undo
that it failed. -/
theorem walk_append (parents : List Tree) (node : Tree) (front : List String) :
    (∃ obstacle, ∀ rest, walk parents node (front ++ rest) = .error obstacle) ∨
      ∃ around middle, ∀ rest, walk parents node (front ++ rest) = walk around middle rest := by
  induction front generalizing parents node with
  | nil => exact Or.inr ⟨parents, node, fun _ => rfl⟩
  | cons segment front ih =>
      cases node with
      | file stamp content => exact Or.inl ⟨.notDirectory, fun _ => rfl⟩
      | directory stamp entries =>
          simp only [List.cons_append, walk]
          split
          · exact ih _ _
          · split
            · cases parents with
              | nil => exact ih _ _
              | cons parent parents => exact ih _ _
            · split
              · exact Or.inl ⟨_, fun _ => rfl⟩
              · cases entries.get? segment with
                | none => exact Or.inl ⟨_, fun _ => rfl⟩
                | some child => exact ih _ _

/-- One step that does not lead back is a step into a directory, or no step at all. -/
theorem node?_of_walk {parents : List Tree} {top node : Tree} {segment : String}
    (pushable : Path.Pushable segment) (reached : walk parents top [segment] = .ok node) :
    walk parents top [""] = .ok top ∧
      node? ([segment].filter (· ≠ "")) top = some node := by
  cases top with
  | file stamp content => cases reached
  | directory stamp entries =>
      refine ⟨rfl, ?_⟩
      by_cases empty : segment = ""
      · subst empty
        cases reached
        rfl
      · simp only [walk, empty, pushable.ne_dot, pushable.ne_dots, or_self, ↓reduceIte] at reached
        split at reached
        · cases reached
        · cases found : entries.get? segment with
          | none =>
              rw [found] at reached
              cases reached
          | some child =>
              rw [found] at reached
              cases reached
              rw [List.filter_cons_of_pos (by simpa using empty)]
              simp [node?, found]

theorem walk_push {tree node : Tree} {path segment : String} (pushable : Path.Pushable segment)
    (reached : walk [] tree (Path.way (Path.push path segment)) = .ok node) :
    ∃ top, walk [] tree (Path.way path) = .ok top ∧
      node? ([segment].filter (· ≠ "")) top = some node := by
  have from_front : ∀ front, walk [] tree (front ++ [segment]) = .ok node →
      ∃ top, walk [] tree front = .ok top ∧ walk [] tree (front ++ [""]) = .ok top ∧
        node? ([segment].filter (· ≠ "")) top = some node := by
    intro front reached
    rcases walk_append [] tree front with ⟨obstacle, failed⟩ | ⟨around, middle, goes⟩
    · rw [failed] at reached
      cases reached
    · rw [goes] at reached
      obtain ⟨stays, found⟩ := node?_of_walk pushable reached
      have alone := goes []
      rw [List.append_nil] at alone
      exact ⟨middle, alone, (goes [""]).trans stays, found⟩
  rcases Path.way_push path pushable.plain with behind | ⟨front, old, new⟩
  · rw [behind] at reached
    obtain ⟨top, walked, -, found⟩ := from_front _ reached
    exact ⟨top, walked, found⟩
  · rw [new] at reached
    obtain ⟨top, -, walked, found⟩ := from_front _ reached
    exact ⟨top, old ▸ walked, found⟩

theorem node?_append (front back : List String) (tree : Tree) :
    node? (front ++ back) tree = (node? front tree).bind (node? back) := by
  induction front generalizing tree with
  | nil => rfl
  | cons name rest ih =>
      cases tree with
      | file stamp content => rfl
      | directory stamp entries =>
          simp only [List.cons_append, node?]
          cases entries.get? name with
          | none => rfl
          | some child => exact ih child

theorem walk_foldl_push {tree node : Tree} {path : String} {added : List String}
    (pushable : ∀ segment ∈ added, Path.Pushable segment)
    (reached : walk [] tree (Path.way (added.foldl Path.push path)) = .ok node) :
    ∃ top, walk [] tree (Path.way path) = .ok top ∧
      node? (added.filter (· ≠ "")) top = some node := by
  induction added generalizing path with
  | nil => exact ⟨node, reached, rfl⟩
  | cons segment rest ih =>
      obtain ⟨first, others⟩ := List.forall_mem_cons.1 pushable
      obtain ⟨middle, walked, below⟩ := ih others reached
      obtain ⟨top, start, found⟩ := walk_push first walked
      refine ⟨top, start, ?_⟩
      have split : segment :: rest = [segment] ++ rest := rfl
      rw [split, List.filter_append, node?_append, found]
      exact below

end Tree

theorem Tree.walk_of_find {tree node : Tree} {path : String} (found : tree.find path = .ok node) :
    walk [] tree (Path.way path) = .ok node := by
  unfold Tree.find at found
  cases checked : Tree.checkPath path with
  | error obstacle =>
      rw [checked] at found
      cases found
  | ok _ =>
      rw [checked] at found
      exact found

theorem Path.liesBelow_of_join? {directory name path : String}
    (joined : join? directory name = some path) : LiesBelow directory name path := by
  have free : ∀ segment ∈ segments name, ¬ IsForbidden segment := by
    intro segment member forbidden
    have refused := (join?_eq_none_iff directory name).2 ⟨segment, member, forbidden⟩
    rw [refused] at joined
    cases joined
  have pushable : ∀ segment ∈ segments name, Pushable segment :=
    fun segment member => pushable_of_mem member (free segment member)
  unfold join? at joined
  split at joined
  · obtain rfl := Option.some.inj joined
    refine ⟨?_, isAbsolute_foldl_push directory pushable, ?_, ?_⟩
    · rw [components_foldl_push directory pushable, filterMap_component? pushable]
      rfl
    · exact fun segment member => free segment (List.mem_filter.1 member).1
    · exact fun tree node found => Tree.walk_foldl_push pushable (Tree.walk_of_find found)
  · cases joined

/-- A question that a search asks the file system. -/
inductive Look where
  /-- Whether a directory is at the path. -/
  | directory (path : String)
  /-- When the file at the path was modified. -/
  | stamp (path : String)
  /-- The text of the file at the path. -/
  | text (path : String)

namespace Look

def path : Look → String
  | directory path => path
  | stamp path => path
  | text path => path

/-- Two trees answer the question alike. -/
def Alike (tree other : Tree) : Look → Prop
  | directory path => tree.isDirectory path = other.isDirectory path
  | stamp path => tree.modified path = other.modified path
  | text path => tree.readText path = other.readText path

end Look

namespace Directory

/-- The questions that a search asks, one in each of its steps. -/
def looksFrom (tree : Nat → Tree) (name : String) (step : Nat) : List String → List Look
  | [] => []
  | directory :: rest =>
    match Path.join? directory name with
    | none => []
    | some path =>
      if (tree step).isDirectory path then .directory path :: looksFrom tree name (step + 1) rest
      else
        .directory path :: .stamp path :: .text path ::
          match (tree (step + 2)).readText path with
          | .error .missing => looksFrom tree name (step + 3) rest
          | _ => []

variable {tree : Nat → Tree} {name : String} {directories : List String}

/-- Each question of a search is about a path below one of its directories. -/
theorem looksFrom_below {step : Nat} {look : Look}
    (member : look ∈ looksFrom tree name step directories) :
    ∃ directory ∈ directories, Path.LiesBelow directory name look.path := by
  induction directories generalizing step with
  | nil => exact absurd member List.not_mem_nil
  | cons directory rest ih =>
      have later : ∀ next, look ∈ looksFrom tree name next rest →
          ∃ other ∈ directory :: rest, Path.LiesBelow other name look.path := by
        intro next asked
        obtain ⟨other, mem, below⟩ := ih asked
        exact ⟨other, List.mem_cons_of_mem _ mem, below⟩
      unfold looksFrom at member
      cases joined : Path.join? directory name with
      | none =>
          rw [joined] at member
          exact absurd member List.not_mem_nil
      | some path =>
          have here : Path.LiesBelow directory name path := Path.liesBelow_of_join? joined
          simp only [joined] at member
          split at member
          · rcases List.mem_cons.1 member with rfl | asked
            · exact ⟨directory, List.mem_cons_self, here⟩
            · exact later _ asked
          · simp only [List.mem_cons] at member
            rcases member with rfl | rfl | rfl | asked
            · exact ⟨directory, List.mem_cons_self, here⟩
            · exact ⟨directory, List.mem_cons_self, here⟩
            · exact ⟨directory, List.mem_cons_self, here⟩
            · split at asked
              · exact later _ asked
              · exact absurd asked List.not_mem_nil

/-- A source that is found is what one of the questions was answered with. -/
theorem looksFrom_of_found {step : Nat} {source : Source}
    (found : searchFrom tree name step directories = .ok (some source)) :
    ∃ k path, (looksFrom tree name step directories)[k]? = some (.text path) ∧
      source.path = some path ∧ (tree (step + k)).readText path = .ok source.text := by
  induction directories generalizing step with
  | nil => cases found
  | cons directory rest ih =>
      unfold searchFrom at found
      unfold looksFrom
      cases joined : Path.join? directory name with
      | none =>
          rw [joined] at found
          cases found
      | some path =>
          simp only [joined] at found ⊢
          by_cases skipped : (tree step).isDirectory path = true
          · rw [if_pos skipped] at found ⊢
            obtain ⟨k, other, asked, same, read⟩ := ih found
            refine ⟨k + 1, other, asked, same, ?_⟩
            rw [← read]
            congr 2
            omega
          · rw [if_neg skipped] at found ⊢
            cases read : (tree (step + 2)).readText path with
            | ok text =>
                rw [read] at found
                cases found
                exact ⟨2, path, rfl, rfl, read⟩
            | error obstacle =>
                rw [read] at found
                cases obstacle with
                | missing =>
                    obtain ⟨k, other, asked, same, text⟩ := ih found
                    refine ⟨k + 3, other, asked, same, ?_⟩
                    rw [← text]
                    congr 2
                    omega
                | _ => cases found

/-- The answers decide what the search finds. -/
theorem searchFrom_of_looks {other : Nat → Tree} {step : Nat}
    (alike : ∀ (k : Nat) (look : Look), (looksFrom tree name step directories)[k]? = some look →
      look.Alike (tree (step + k)) (other (step + k))) :
    searchFrom other name step directories = searchFrom tree name step directories := by
  induction directories generalizing step with
  | nil => rfl
  | cons directory rest ih =>
      unfold searchFrom
      unfold looksFrom at alike
      cases joined : Path.join? directory name with
      | none => rfl
      | some path =>
          simp only [joined] at alike
          by_cases skipped : (tree step).isDirectory path = true
          · rw [if_pos skipped] at alike
            have first : (tree step).isDirectory path = (other step).isDirectory path := alike 0 _ rfl
            simp only [← first, skipped, ↓reduceIte]
            apply ih
            intro k look asked
            rw [Nat.add_assoc, Nat.add_comm 1 k]
            exact alike (k + 1) look asked
          · rw [if_neg skipped] at alike
            have first : (tree step).isDirectory path = (other step).isDirectory path := alike 0 _ rfl
            have second : (tree (step + 1)).modified path = (other (step + 1)).modified path :=
              alike 1 _ rfl
            have third : (tree (step + 2)).readText path = (other (step + 2)).readText path :=
              alike 2 _ rfl
            simp only [← first, ← second, ← third, skipped]
            cases read : (tree (step + 2)).readText path with
            | ok text => rfl
            | error obstacle =>
                cases obstacle with
                | missing =>
                    apply ih
                    intro k look asked
                    rw [Nat.add_assoc, Nat.add_comm 3 k]
                    apply alike (k + 3) look
                    rw [read]
                    exact asked
                | _ => rfl

/-- A forbidden name ends a search before its first question. -/
theorem searchFrom_of_forbidden
    (forbidden : ∃ segment ∈ Path.segments name, Path.IsForbidden segment) (step : Nat) :
    searchFrom tree name step directories = .ok none ∧
      looksFrom tree name step directories = [] := by
  cases directories with
  | nil => exact ⟨rfl, rfl⟩
  | cons directory rest =>
      unfold searchFrom looksFrom
      rw [(Path.join?_eq_none_iff directory name).2 forbidden]
      exact ⟨rfl, rfl⟩

end Directory

/-- Where templates are looked for. A name with a forbidden segment has no path in any directory, and
is not looked for at all. The path of any other name lies below the directory, and so does all that
the file system is asked in a search, whose result hangs on the answers alone. In particular a
template that is found is the text of a file below one of the directories. -/
theorem searches_stay_below (directories : List String) (name : String) :
    (∀ directory,
      (Path.join? directory name = none ↔
        ∃ segment ∈ Path.segments name, Path.IsForbidden segment) ∧
      ∀ path, Path.join? directory name = some path → Path.LiesBelow directory name path) ∧
    ∀ (tree : Nat → Tree) (step : Nat),
      let looks := Directory.looksFrom tree name step directories
      (∀ look ∈ looks, ∃ directory ∈ directories, Path.LiesBelow directory name look.path) ∧
      (∀ other : Nat → Tree,
        (∀ (k : Nat) (look : Look), looks[k]? = some look →
          look.Alike (tree (step + k)) (other (step + k))) →
        Directory.searchFrom other name step directories =
          Directory.searchFrom tree name step directories) ∧
      ((∃ segment ∈ Path.segments name, Path.IsForbidden segment) →
        Directory.searchFrom tree name step directories = .ok none ∧ looks = []) ∧
      ∀ source, Directory.searchFrom tree name step directories = .ok (some source) →
        ∃ directory ∈ directories, ∃ k path, looks[k]? = some (.text path) ∧
          source.path = some path ∧ (tree (step + k)).readText path = .ok source.text ∧
          Path.LiesBelow directory name path := by
  refine ⟨fun directory => ⟨Path.join?_eq_none_iff directory name,
    fun path joined => Path.liesBelow_of_join? joined⟩, ?_⟩
  intro tree step looks
  refine ⟨fun look asked => Directory.looksFrom_below asked,
    fun other alike => Directory.searchFrom_of_looks alike,
    fun forbidden => Directory.searchFrom_of_forbidden forbidden step, ?_⟩
  intro source found
  obtain ⟨k, path, asked, same, read⟩ := Directory.looksFrom_of_found found
  obtain ⟨directory, member, below⟩ := Directory.looksFrom_below (List.mem_of_getElem? asked)
  exact ⟨directory, member, k, path, asked, same, read, below⟩

/-- Slashes that are too many do not lead out of a directory, and neither do two dots. -/
theorem searches_stay_below_slashes :
    let tree := Tree.ofFiles [("site/blog/post", "the post"), ("secret", "not for templates")]
    let directories := ["nowhere", "./site/"]
    let source : Source :=
      ⟨"the post", some "./site/blog/post", some (.modified "./site/blog/post" (some 0))⟩
    Directory.search tree directories "/blog//post" = .ok (some source) ∧
    (∃ directory ∈ directories, Path.LiesBelow directory "/blog//post" "./site/blog/post") ∧
    Path.components "./site/blog/post" = [.here, .named "site", .named "blog", .named "post"] ∧
    ".." ∈ Path.segments "blog/../../secret" ∧
    Directory.search tree directories "blog/../../secret" = .ok none ∧
    Directory.looksFrom (fun _ => tree) "blog/../../secret" 0 directories = [] := by
  intro tree directories source
  have found : Directory.search tree directories "/blog//post" = .ok (some source) := by
    decide +kernel
  have dots : ".." ∈ Path.segments "blog/../../secret" := by decide +kernel
  obtain ⟨-, searches⟩ := searches_stay_below directories "/blog//post"
  obtain ⟨-, -, -, below⟩ := searches (fun _ => tree) 0
  obtain ⟨directory, member, -, path, -, same, -, lies⟩ := below source found
  cases same
  obtain ⟨-, refused⟩ := searches_stay_below directories "blog/../../secret"
  obtain ⟨-, -, nothing, -⟩ := refused (fun _ => tree) 0
  obtain ⟨unfound, unasked⟩ := nothing ⟨"..", dots, Or.inl rfl⟩
  exact ⟨found, ⟨directory, member, lies⟩, by decide +kernel, dots, unfound, unasked⟩

end Stencil
