import Stencil.Loader.Directory
import Stencil.Loader.Memory

set_option autoImplicit false

namespace Stencil

structure Sources where
  stores : List Store
  files : Tree
  /-- The answers of each flag, by the number of checks that were made before. -/
  flags : Dict (Nat → Bool)

namespace Sources

def empty : Sources := ⟨[], .empty, ∅⟩

/-- Adds an empty store with one handle, whose number is that of the stores before it. -/
def addStore (sources : Sources) : Sources :=
  { sources with stores := sources.stores ++ [Store.new] }

def modifyStore (sources : Sources) (id : Nat) (change : Store → Store) : Sources :=
  { sources with stores := sources.stores.modify id change }

def setFlag (sources : Sources) (name : String) (answers : Nat → Bool) : Sources :=
  { sources with flags := sources.flags.insert name answers }

end Sources

/-- Whether what was loaded is still current, when so many checks were made before. A flag that was
never set is down. -/
def Freshness.holds (sources : Sources) (checked : Nat) : Freshness → Bool
  | .flag name => (sources.flags.get? name).any fun answers => answers checked
  | .revision id name number =>
    sources.stores[id]?.any fun store => store.isCurrent name number
  | .modified path stamp => Directory.isUnmodified sources.files path stamp

/-- Finds sources by name. -/
inductive Loader where
  /-- Looks into the store of the given number, which the loader holds. -/
  | memory (store : Nat)
  /-- Searches directories. -/
  | directories (paths : List String)
  /-- Asks a function. -/
  | custom (label : String) (get : String → Except Error (Option Source))

namespace Loader

/-- What the loader has for a name: a source, nothing, or an error that ends the search. -/
def get (sources : Sources) : Loader → String → Except Error (Option Source)
  | memory id, name => .ok (sources.stores[id]?.bind fun store => store.source? id name)
  | directories paths, name => Directory.search sources.files paths name
  | custom _ find, name => find name

/-- What holding a loader does to the sources: its store has one more handle. -/
def hold (sources : Sources) : Loader → Sources
  | memory id => sources.modifyStore id Store.hold
  | _ => sources

/-- What letting a loader go does to the sources: its store has one handle less. -/
def release (sources : Sources) : Loader → Sources
  | memory id => sources.modifyStore id Store.release
  | _ => sources

end Loader

end Stencil
