import Stencil.Text.Blank

set_option autoImplicit false

namespace Stencil.Markup

inductive Tag where
  | expression
  | directive
  deriving DecidableEq, Repr

/-- The character in front of the brace that closes a tag. -/
def Tag.closing : Tag → Char
  | .expression => '\x7d'
  | .directive => '%'

inductive Piece where
  /-- Text that is not in a tag. -/
  | text (chars : List Char)
  /-- What is in a tag, without white space at its ends. -/
  | tag (tag : Tag) (inside : List Char)
  /-- A tag that is not closed. -/
  | unclosed
  deriving DecidableEq, Repr

/-- Cuts a text before its first tag: the text in front, and the kind of the tag with everything
behind its opening. -/
def beforeTag : List Char → List Char × Option (Tag × List Char)
  | [] => ([], none)
  | '\x7b' :: '\x7b' :: rest => ([], some (.expression, rest))
  | '\x7b' :: '%' :: rest => ([], some (.directive, rest))
  | c :: rest => (c :: (beforeTag rest).1, (beforeTag rest).2)

/-- Cuts a text at the first place where a tag is closed: the text in front and behind. -/
def insideTag (tag : Tag) : List Char → Option (List Char × List Char)
  | [] => none
  | c :: rest =>
    if c = tag.closing ∧ rest.head? = some '\x7d' then some ([], rest.tail)
    else (insideTag tag rest).map fun cut => (c :: cut.1, cut.2)

/-- What is behind the opening of a tag is shorter than the text. -/
theorem beforeTag_length {cs : List Char} {tag : Tag} {rest : List Char}
    (h : (beforeTag cs).2 = some (tag, rest)) : rest.length < cs.length := by
  fun_induction beforeTag cs with
  | case1 => cases h
  | case2 cs | case3 cs =>
    simp only [Option.some.injEq, Prod.mk.injEq] at h
    rw [← h.2, List.length_cons, List.length_cons]
    omega
  | case4 c cs _ _ ih =>
    have := ih h
    simp only [List.length_cons]
    omega

/-- What is behind the closing of a tag is shorter than the text. -/
theorem insideTag_length {tag : Tag} {cs inside rest : List Char}
    (h : insideTag tag cs = some (inside, rest)) : rest.length < cs.length := by
  induction cs generalizing inside with
  | nil => simp [insideTag] at h
  | cons c cs ih =>
    unfold insideTag at h
    split at h
    · simp only [Option.some.injEq, Prod.mk.injEq] at h
      rw [← h.2, List.length_tail, List.length_cons]
      omega
    · obtain ⟨cut, found, same⟩ := Option.map_eq_some_iff.1 h
      simp only [Prod.mk.injEq] at same
      have shorter := @ih cut.1 (by rw [found, ← same.2])
      rw [List.length_cons]
      omega

def textPiece (chars : List Char) : List Piece := if chars.isEmpty then [] else [.text chars]

def pieces (cs : List Char) : List Piece :=
  match _opened : (beforeTag cs).2 with
  | none => textPiece (beforeTag cs).1
  | some (tag, behind) =>
    textPiece (beforeTag cs).1 ++
      match _closed : insideTag tag behind with
      | none => [.unclosed]
      | some (inside, rest) => .tag tag (Text.trim inside) :: pieces rest
termination_by cs.length
decreasing_by
  have := beforeTag_length _opened
  have := insideTag_length _closed
  omega

end Stencil.Markup
