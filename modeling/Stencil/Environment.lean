import Stencil.Compiler
import Stencil.Filter.Builtin
import Stencil.Loader.Basic

set_option autoImplicit false

namespace Stencil

structure Environment where
  loaders : List Loader
  compiler : Option Compiler
  filters : Filters
  policy : Policy

namespace Environment

def empty : Environment := ⟨[], none, ∅, .assumeStale⟩

def ofLoaders (loaders : List Loader) : Environment :=
  { empty with loaders := loaders, filters := Filter.builtin }

/-- The environment with the built-in filters that loads from the working directory. -/
def standard : Environment := ofLoaders [.directories ["."]]

end Environment

/-- An environment and what its loaders read from. -/
structure Setting where
  environment : Environment
  sources : Sources

end Stencil
