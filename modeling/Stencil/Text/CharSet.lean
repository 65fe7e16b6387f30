set_option autoImplicit false

namespace Stencil.Text

/-- The code points from each pair's first to its second component, both included. -/
abbrev CharSet := List (Nat × Nat)

/-- A character is in the set when one of the ranges holds its code point. -/
def CharSet.contains (set : CharSet) (c : Char) : Bool :=
  set.any fun range => range.1 ≤ c.toNat && c.toNat ≤ range.2

end Stencil.Text
