import Stencil.Inspection

set_option autoImplicit false

namespace Stencil

/-- What the currency of a text depends on. -/
inductive Freshness where
  /-- A flag that is raised and lowered from outside. -/
  | flag (name : String)
  /-- The revision under which a store holds the name. -/
  | revision (store : Nat) (name : String) (revision : UInt64)
  /-- The modification time of a file, as it was before the file was read. -/
  | modified (path : String) (stamp : Option Int)
  deriving DecidableEq, Repr

/-- What a loader finds for a name. -/
structure Source where
  text : String
  path : Option String
  freshness : Option Freshness
  deriving DecidableEq, Repr

/-- What is assumed of a template whose currency cannot be checked. -/
inductive Policy where
  | assumeStale
  | assumeFresh
  deriving DecidableEq, Repr

/-- Whether the policy takes a template for current. -/
def Policy.isFresh : Policy → Bool
  | .assumeStale => false
  | .assumeFresh => true

def Policy.name : Policy → String
  | .assumeStale => "AssumeStale"
  | .assumeFresh => "AssumeFresh"

def Source.ofText (text : String) : Source := ⟨text, none, none⟩

def Source.inspect (source : Source) : Inspection :=
  .record "LoadedSource" [
    ("source", .text source.text),
    ("path", .optional (source.path.map .text)),
    ("has_up_to_date", .truth source.freshness.isSome)]

end Stencil
