set_option autoImplicit false

namespace Stencil

/-- Entries in the order of their names, which all come after `below` if that is a name. The order
is part of the type, and not a proof about a list, because a value may be a dictionary of values. -/
inductive Entries (α : Type) : Option String → Type where
  | nil {below : Option String} : Entries α below
  | cons {below : Option String} (name : String) (after : ∀ other ∈ below, other < name) (value : α)
      (rest : Entries α (some name)) : Entries α below

namespace Entries

variable {α β : Type}

theorem after_none (name : String) : ∀ other ∈ (none : Option String), other < name := nofun

theorem after_some {first second : String} (less : first < second) :
    ∀ other ∈ some first, other < second := by
  intro other same
  cases same
  exact less

/-- The value of a name, if there is an entry for it. -/
def find (name : String) : {below : Option String} → Entries α below → Option α
  | _, nil => none
  | _, cons key _ value rest => if key = name then some value else rest.find name

private theorem lt_of_mem_some {name key other : String} (less : key < name)
    (member : other ∈ some key) : other < name := by
  cases member
  exact less

private theorem lt_of_differs {name key : String} (differs : ¬ key = name) (above : ¬ name < key) :
    key < name :=
  Std.lt_of_le_of_ne (String.not_lt.1 above) differs

/-- The entries with one more; an entry of the same name gives way. -/
def place (name : String) (value : α) :
    {below : Option String} → (∀ other ∈ below, other < name) → Entries α below → Entries α below
  | _, after, nil => cons name after value nil
  | _, after, cons key behind old rest =>
    if same : key = name then cons key behind value rest
    else if less : name < key then
      cons name after value (cons key (fun _ => lt_of_mem_some less) old rest)
    else cons key behind old
      (place name value (fun _ => lt_of_mem_some (lt_of_differs same less)) rest)

/-- Entries that come after a name come after all that is before it. -/
def weaken {name : String} {below : Option String} (after : ∀ other ∈ below, other < name) :
    Entries α (some name) → Entries α below
  | nil => nil
  | cons key behind value rest =>
    cons key (fun other member => String.lt_trans (after other member) (behind name rfl)) value rest

def remove (name : String) : {below : Option String} → Entries α below → Entries α below
  | _, nil => nil
  | _, cons key after value rest =>
    if key = name then rest.weaken after else cons key after value (rest.remove name)

def map (f : α → β) : {below : Option String} → Entries α below → Entries β below
  | _, nil => nil
  | _, cons name after value rest => cons name after (f value) (rest.map f)

def toList : {below : Option String} → Entries α below → List (String × α)
  | _, nil => []
  | _, cons name _ value rest => (name, value) :: rest.toList

theorem lt_of_mem_toList {below : Option String} (entries : Entries α below) {entry : String × α}
    (member : entry ∈ entries.toList) : ∀ other ∈ below, other < entry.1 := by
  induction entries with
  | nil => cases member
  | cons name after value rest ih =>
      intro other given
      rcases List.mem_cons.1 member with rfl | later
      · exact after other given
      · exact String.lt_trans (after other given) (ih later name rfl)

theorem mem_toList_iff {below : Option String} (entries : Entries α below) (name : String)
    (value : α) : (name, value) ∈ entries.toList ↔ entries.find name = some value := by
  induction entries with
  | nil => simp [toList, find]
  | cons key after old rest ih =>
      by_cases same : key = name
      · subst same
        have absent : (key, value) ∉ rest.toList := fun later =>
          String.lt_irrefl key (rest.lt_of_mem_toList later key rfl)
        simp [toList, find, absent, eq_comm]
      · simp [toList, find, same, Ne.symm same, ih]

theorem find_weaken {key : String} {below : Option String} (after : ∀ other ∈ below, other < key)
    (entries : Entries α (some key)) (name : String) :
    (entries.weaken after).find name = entries.find name := by
  cases entries <;> rfl

/-- There is no entry for a name that does not come after all that is before the entries. -/
theorem find_of_not_lt {key name : String} (entries : Entries α (some key)) (above : ¬ key < name) :
    entries.find name = none := by
  apply Option.eq_none_iff_forall_ne_some.2
  intro value found
  exact above (entries.lt_of_mem_toList ((entries.mem_toList_iff name value).2 found) key rfl)

theorem find_cons_of_lt {key name : String} {below : Option String}
    (behind : ∀ other ∈ below, other < key) (value : α) (rest : Entries α (some key))
    (less : name < key) : (cons key behind value rest).find name = none := by
  have differs : ¬ key = name := by
    rintro rfl
    exact String.lt_irrefl key less
  rw [find, if_neg differs]
  exact rest.find_of_not_lt fun greater => String.lt_irrefl name (String.lt_trans less greater)

theorem find_place (name other : String) (value : α) {below : Option String}
    (after : ∀ first ∈ below, first < name) (entries : Entries α below) :
    (entries.place name value after).find other =
      if other = name then some value else entries.find other := by
  induction entries with
  | nil => simp [place, find, eq_comm]
  | cons key behind old rest ih =>
      unfold place
      split
      · rename_i same
        subst same
        by_cases here : other = key
        · simp [find, here]
        · simp [find, here, Ne.symm here]
      · rename_i differs
        split
        · by_cases here : other = name
          · simp [find, here]
          · simp [find, here, Ne.symm here]
        · by_cases here : other = name
          · subst here
            simp [find, differs, ih]
          · simp [find, ih, here]

theorem find_remove (name other : String) {below : Option String} (entries : Entries α below) :
    (entries.remove name).find other = if other = name then none else entries.find other := by
  induction entries with
  | nil => simp [remove, find]
  | cons key after value rest ih =>
      unfold remove
      split
      · rename_i same
        subst same
        rw [find_weaken]
        by_cases here : other = key
        · rw [if_pos here, here, rest.find_of_not_lt (String.lt_irrefl key)]
        · rw [if_neg here, find, if_neg (Ne.symm here)]
      · rename_i differs
        rw [find, find, ih]
        by_cases here : other = name
        · rw [if_pos here, if_pos here, here, if_neg differs]
        · rw [if_neg here, if_neg here]

/-- Entries are equal when every name has the same value in them. -/
theorem ext {below : Option String} {entries others : Entries α below}
    (same : ∀ name, entries.find name = others.find name) : entries = others := by
  induction entries with
  | nil =>
      cases others with
      | nil => rfl
      | cons name after value rest =>
          have found := same name
          rw [find, find, if_pos rfl] at found
          cases found
  | cons name after value rest ih =>
      cases others with
      | nil =>
          have found := same name
          rw [find, find, if_pos rfl] at found
          cases found
      | cons key behind old others =>
          -- Were the first names different, the smaller of them would have no value in the other.
          have notLess : ¬ name < key := by
            intro less
            have found := same name
            rw [find_cons_of_lt behind old others less, find, if_pos rfl] at found
            cases found
          have notGreater : ¬ key < name := by
            intro greater
            have found := same key
            rw [find_cons_of_lt after value rest greater, find, if_pos rfl] at found
            cases found
          obtain rfl := String.le_antisymm (String.not_lt.1 notGreater) (String.not_lt.1 notLess)
          have first := same name
          rw [find, find, if_pos rfl, if_pos rfl] at first
          obtain rfl := Option.some.inj first
          congr 1
          apply ih
          intro other
          by_cases here : other = name
          · rw [here, rest.find_of_not_lt (String.lt_irrefl name),
              others.find_of_not_lt (String.lt_irrefl name)]
          · have found := same other
            rw [find, find, if_neg (Ne.symm here), if_neg (Ne.symm here)] at found
            exact found

end Entries

/-- Names with a value each. -/
structure Dict (α : Type) where
  ordered : Entries α none

namespace Dict

variable {α β : Type}

instance : EmptyCollection (Dict α) := ⟨⟨.nil⟩⟩

instance : Inhabited (Dict α) := ⟨∅⟩

/-- The entries, in the order of their names. -/
def entries (dict : Dict α) : List (String × α) := dict.ordered.toList

instance [Repr α] : Repr (Dict α) := ⟨fun dict => reprPrec dict.entries⟩

def get? (dict : Dict α) (name : String) : Option α := dict.ordered.find name

/-- The dictionary in which `name` stands for `value` and every other name for what it did. -/
def insert (dict : Dict α) (name : String) (value : α) : Dict α :=
  ⟨dict.ordered.place name value (Entries.after_none name)⟩

def erase (dict : Dict α) (name : String) : Dict α := ⟨dict.ordered.remove name⟩

def contains (dict : Dict α) (name : String) : Bool := (dict.get? name).isSome

def keys (dict : Dict α) : List String := dict.entries.map (·.1)

def size (dict : Dict α) : Nat := dict.entries.length

/-- The dictionary of the given entries, of which the last counts for each name. -/
def ofList (entries : List (String × α)) : Dict α :=
  entries.foldl (fun dict entry => dict.insert entry.1 entry.2) ∅

/-- One dictionary laid over another: a name stands for what it does in `layer`, and for what it
does in `base` if `layer` does not have it. -/
def overlay (base layer : Dict α) : Dict α :=
  layer.entries.foldr (fun entry dict => dict.insert entry.1 entry.2) base

def map (f : α → β) (dict : Dict α) : Dict β := ⟨dict.ordered.map f⟩

theorem mem_entries_iff (dict : Dict α) (name : String) (value : α) :
    (name, value) ∈ dict.entries ↔ dict.get? name = some value :=
  dict.ordered.mem_toList_iff name value

/-- Dictionaries are equal when every name stands for the same in them. -/
theorem ext {dict other : Dict α} (same : ∀ name, dict.get? name = other.get? name) :
    dict = other := by
  obtain ⟨ordered⟩ := dict
  exact congrArg Dict.mk (Entries.ext same)

@[simp] theorem get?_empty (name : String) : (∅ : Dict α).get? name = none := rfl

/-- After an insertion the new name stands for the new value, and the others for what they did. -/
theorem get?_insert (dict : Dict α) (name other : String) (value : α) :
    (dict.insert name value).get? other = if other = name then some value else dict.get? other :=
  Entries.find_place name other value _ dict.ordered

/-- After a removal the name stands for nothing, and the others for what they did. -/
theorem get?_erase (dict : Dict α) (name other : String) :
    (dict.erase name).get? other = if other = name then none else dict.get? other :=
  Entries.find_remove name other dict.ordered

theorem get?_ofList (entries : List (String × α)) (name : String) :
    (ofList entries).get? name = (entries.reverse.find? (·.1 = name)).map (·.2) := by
  rw [ofList, List.foldl_eq_foldr_reverse]
  induction entries.reverse with
  | nil => rfl
  | cons entry rest ih =>
      rw [List.foldr_cons, get?_insert, ih]
      by_cases same : name = entry.1
      · simp [same]
      · simp [same, Ne.symm same]

theorem ofList_pair {first second : String} (less : first < second) (a b : α) :
    ofList [(first, a), (second, b)] =
      ⟨.cons first (Entries.after_none first) a (.cons second (Entries.after_some less) b .nil)⟩ := by
  have differs : ¬ first = second := by
    rintro rfl
    exact String.lt_irrefl first less
  have above : ¬ second < first := fun greater =>
    String.lt_irrefl first (String.lt_trans less greater)
  change Dict.mk (Entries.place second b _ (.cons first _ a .nil)) = _
  rw [Entries.place, dif_neg differs, dif_neg above]
  rfl

private theorem get?_foldr_insert (base : Dict α) (name : String) {below : Option String}
    (entries : Entries α below) :
    (entries.toList.foldr (fun entry dict => dict.insert entry.1 entry.2) base).get? name =
      (entries.find name).or (base.get? name) := by
  induction entries with
  | nil => rfl
  | cons key after value rest ih =>
      rw [Entries.toList, List.foldr_cons, get?_insert, Entries.find]
      by_cases same : name = key
      · rw [if_pos same, if_pos same.symm, Option.some_or]
      · rw [if_neg same, if_neg (Ne.symm same), ih]

/-- In an overlay the upper layer counts, and the lower one where the upper has nothing. -/
theorem get?_overlay (base layer : Dict α) (name : String) :
    (base.overlay layer).get? name = (layer.get? name).or (base.get? name) :=
  get?_foldr_insert base name layer.ordered

/-- The names are those that stand for something. -/
theorem mem_keys_iff (dict : Dict α) (name : String) :
    name ∈ dict.keys ↔ dict.contains name = true := by
  rw [contains, Option.isSome_iff_exists]
  constructor
  · intro member
    obtain ⟨⟨_, value⟩, entered, rfl⟩ := List.mem_map.1 member
    exact ⟨value, (dict.mem_entries_iff _ value).1 entered⟩
  · rintro ⟨value, stands⟩
    exact List.mem_map.2 ⟨_, (dict.mem_entries_iff name value).2 stands, rfl⟩

end Dict

end Stencil
