import Stencil.Source

set_option autoImplicit false

namespace Stencil

/-- Templates by name, each with the revision that added it, and how many handles hold the store. -/
structure Store where
  entries : Dict (String × UInt64)
  revision : UInt64
  handles : Nat

namespace Store

def new : Store := ⟨∅, 0, 1⟩

/-- Adds a template, or replaces it, under the next revision. -/
def add (store : Store) (name text : String) : Store :=
  { store with
    entries := store.entries.insert name (text, store.revision + 1)
    revision := store.revision + 1 }

def remove (store : Store) (name : String) : Store :=
  { store with entries := store.entries.erase name }

def contains (store : Store) (name : String) : Bool := store.entries.contains name

/-- One more handle holds the store. A store that nobody holds any more is lost. -/
def hold (store : Store) : Store :=
  if store.handles = 0 then store else { store with handles := store.handles + 1 }

def release (store : Store) : Store := { store with handles := store.handles - 1 }

def source? (store : Store) (id : Nat) (name : String) : Option Source :=
  (store.entries.get? name).map fun entry =>
    ⟨entry.1, none, some (.revision id name entry.2)⟩

/-- Whether the store is held and has the name under the revision. -/
def isCurrent (store : Store) (name : String) (revision : UInt64) : Bool :=
  store.handles ≠ 0 && ((store.entries.get? name).any fun entry => entry.2 == revision)

def inspect (store : Store) : Inspection := .names store.entries.keys

end Store

end Stencil
