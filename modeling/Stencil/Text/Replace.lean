set_option autoImplicit false

namespace Stencil.Text

/-- Replaces a pattern that is not empty. The first `skip` characters belong to an occurrence
that was replaced already. -/
def replaceFrom (pattern replacement : List Char) (skip : Nat) : List Char → List Char
  | [] => []
  | c :: rest =>
    match skip with
    | skip + 1 => replaceFrom pattern replacement skip rest
    | 0 =>
      if pattern.isPrefixOf (c :: rest) then
        replacement ++ replaceFrom pattern replacement (pattern.length - 1) rest
      else c :: replaceFrom pattern replacement 0 rest

def replace (pattern replacement cs : List Char) : List Char :=
  if pattern.isEmpty then cs.flatMap (fun c => replacement ++ [c]) ++ replacement
  else replaceFrom pattern replacement 0 cs

end Stencil.Text
