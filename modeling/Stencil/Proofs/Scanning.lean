import Mathlib.Data.List.Infix
import Stencil.Markup.Document

set_option autoImplicit false

namespace Stencil.Markup

/-! ### Tags -/

def Tag.opening : Tag → Char
  | .expression => '\x7b'
  | .directive => '%'

def Tag.write (tag : Tag) (inside : List Char) : List Char :=
  '\x7b' :: tag.opening :: (inside ++ [tag.closing, '\x7d'])

/-- A text that opens no tag, also not with what comes behind it. -/
structure Plain (cs : List Char) : Prop where
  noExpression : ¬ ['\x7b', '\x7b'] <:+: cs
  noDirective : ¬ ['\x7b', '%'] <:+: cs
  ended : cs.getLast? ≠ some '\x7b'

instance (cs : List Char) : Decidable (Plain cs) :=
  decidable_of_iff (¬ ['\x7b', '\x7b'] <:+: cs ∧ ¬ ['\x7b', '%'] <:+: cs ∧ cs.getLast? ≠ some '\x7b')
    ⟨fun ⟨noExpression, noDirective, ended⟩ => ⟨noExpression, noDirective, ended⟩,
      fun plain => ⟨plain.noExpression, plain.noDirective, plain.ended⟩⟩

theorem Plain.unopened {cs : List Char} (plain : Plain cs) (tag : Tag) :
    ¬ ['\x7b', tag.opening] <:+: cs := by
  cases tag with
  | expression => exact plain.noExpression
  | directive => exact plain.noDirective

/-- The scanner passes over a text, whatever comes behind it. -/
def Passed (cs : List Char) : Prop :=
  ∀ rest, beforeTag (cs ++ rest) = (cs ++ (beforeTag rest).1, (beforeTag rest).2)

theorem passed_nil : Passed [] := fun _ => rfl

theorem Passed.append {cs ds : List Char} (first : Passed cs) (second : Passed ds) :
    Passed (cs ++ ds) := by
  intro rest
  rw [List.append_assoc, first, second, List.append_assoc]

theorem beforeTag_cons {c : Char} {rest : List Char}
    (unopened : ∀ tag : Tag, c = '\x7b' → rest.head? ≠ some tag.opening) :
    beforeTag (c :: rest) = (c :: (beforeTag rest).1, (beforeTag rest).2) := by
  apply beforeTag.eq_4
  · rintro behind rfl rfl
    exact unopened .expression rfl rfl
  · rintro behind rfl rfl
    exact unopened .directive rfl rfl

theorem Plain.passed {cs : List Char} (plain : Plain cs) : Passed cs := by
  induction cs with
  | nil => exact passed_nil
  | cons c cs ih =>
      have later : Plain cs := by
        have behind : cs <:+: c :: cs := (List.suffix_cons c cs).isInfix
        refine ⟨fun opened => plain.noExpression (opened.trans behind),
          fun opened => plain.noDirective (opened.trans behind), ?_⟩
        intro last
        apply plain.ended
        rw [List.getLast?_cons, last]
        rfl
      intro rest
      -- The character behind a brace is one of the text, which does not end in a brace.
      have here : ∀ tag : Tag, c = '\x7b' → (cs ++ rest).head? ≠ some tag.opening := by
        rintro tag rfl opened
        cases cs with
        | nil => exact plain.ended rfl
        | cons d cs =>
            obtain rfl : d = tag.opening := Option.some.inj opened
            exact plain.unopened tag ⟨[], cs, rfl⟩
      rw [List.cons_append, beforeTag_cons here, ih later]
      rfl

theorem beforeTag_write (tag : Tag) (inside rest : List Char) :
    beforeTag (tag.write inside ++ rest) =
      ([], some (tag, inside ++ [tag.closing, '\x7d'] ++ rest)) := by
  cases tag <;> rfl

theorem insideTag_append {tag : Tag} {inside : List Char} (inner : tag.closing ∉ inside)
    (rest : List Char) :
    insideTag tag (inside ++ [tag.closing, '\x7d'] ++ rest) = some (inside, rest) := by
  induction inside with
  | nil => exact if_pos ⟨rfl, rfl⟩
  | cons c inside ih =>
      have other : c ≠ tag.closing := fun same => inner (same ▸ List.mem_cons_self)
      have later : tag.closing ∉ inside := fun member => inner (List.mem_cons_of_mem c member)
      rw [List.append_assoc, List.cons_append, insideTag, if_neg fun closed => other closed.1,
        ← List.append_assoc, ih later]
      rfl

/-- A text without tags is one piece. -/
theorem pieces_of_passed {cs : List Char} (passed : Passed cs) : pieces cs = textPiece cs := by
  have whole := passed []
  rw [List.append_nil] at whole
  have nothing : beforeTag [] = ([], none) := rfl
  rw [nothing, List.append_nil] at whole
  unfold pieces
  split
  · rw [whole]
  · rename_i opened
    rw [whole] at opened
    cases opened

/-- A tag ends the text in front of it, and what is behind is read on its own. -/
theorem pieces_write {cs : List Char} (passed : Passed cs) {tag : Tag} {inside : List Char}
    (inner : tag.closing ∉ inside) (rest : List Char) :
    pieces (cs ++ tag.write inside ++ rest) =
      textPiece cs ++ .tag tag (Text.trim inside) :: pieces rest := by
  have found : beforeTag (cs ++ tag.write inside ++ rest) =
      (cs, some (tag, inside ++ [tag.closing, '\x7d'] ++ rest)) := by
    rw [List.append_assoc, passed, beforeTag_write, List.append_nil]
  rw [pieces]
  split
  · rename_i opened
    rw [found] at opened
    cases opened
  · rename_i opened
    rw [found] at opened
    cases opened
    rw [found]
    congr 1
    split
    · rename_i closed
      rw [insideTag_append inner] at closed
      cases closed
    · rename_i closed
      rw [insideTag_append inner] at closed
      cases closed
      rfl

/-! ### Expressions -/

/-- A name with white space around it. It is not cut where filters are, and closes no tag. -/
structure Part where
  before : List Char
  name : String
  behind : List Char
  blankBefore : before.all Text.isBlank = true := by decide
  blankBehind : behind.all Text.isBlank = true := by decide
  trimmed : Text.trim name.toList = name.toList := by decide
  uncut : '|' ∉ name.toList := by decide
  unclosed : '\x7d' ∉ name.toList := by decide

namespace Part

def write (part : Part) : List Char := part.before ++ part.name.toList ++ part.behind

theorem not_mem_write (part : Part) {c : Char} (visible : Text.isBlank c = false)
    (free : c ∉ part.name.toList) : c ∉ part.write := by
  intro member
  rcases List.mem_append.1 member with front | behind
  · rcases List.mem_append.1 front with before | named
    · rw [List.all_eq_true.1 part.blankBefore c before] at visible
      cases visible
    · exact free named
  · rw [List.all_eq_true.1 part.blankBehind c behind] at visible
    cases visible

/-- A part is not cut. -/
theorem uncut_write (part : Part) : ∀ c ∈ part.write, decide (c = '|') = false := by
  intro c member
  apply decide_eq_false
  rintro rfl
  exact part.not_mem_write (by decide) part.uncut member

theorem trim_write (part : Part) : Text.trim part.write = part.name.toList :=
  (Text.trim_surrounded (List.all_eq_true.1 part.blankBefore)
    (List.all_eq_true.1 part.blankBehind) _).trans part.trimmed

def writeAll (first : Part) (rest : List Part) : List Char :=
  first.write ++ rest.flatMap fun part => '|' :: part.write

theorem unclosed_writeAll (first : Part) (rest : List Part) : '\x7d' ∉ first.writeAll rest := by
  have visible : Text.isBlank '\x7d' = false := by decide
  intro member
  rcases List.mem_append.1 member with here | later
  · exact first.not_mem_write visible first.unclosed here
  · obtain ⟨part, -, inside⟩ := List.mem_flatMap.1 later
    rcases List.mem_cons.1 inside with bar | inside
    · cases bar
    · exact part.not_mem_write visible part.unclosed inside

/-- Cutting at the bars undoes the writing. -/
theorem splitAt_writeAll (first : Part) (rest : List Part) :
    Text.splitAt (· = '|') (first.writeAll rest) = (first :: rest).map write := by
  induction rest generalizing first with
  | nil =>
      rw [writeAll, List.flatMap_nil, List.append_nil, Text.splitAt_of_uncut first.uncut_write]
      rfl
  | cons second rest ih =>
      have cut : decide ('|' = '|') = true := rfl
      change Text.splitAt _ (first.write ++ '|' :: second.writeAll rest) = _
      rw [Text.splitAt_append_cons _ _ _ cut, Text.splitAt_of_uncut first.uncut_write, ih]
      rfl

/-- The names are found again in a tag, whatever white space stands around them. -/
theorem names_writeAll (first : Part) (rest : List Part) :
    ((Text.splitAt (· = '|') (Text.trim (first.writeAll rest))).map fun part =>
        String.ofList (Text.trim part)) = (first :: rest).map Part.name := by
  have solid : ∀ c, Text.isBlank c = true → decide (c = '|') = false := by
    intro c blank
    apply decide_eq_false
    rintro rfl
    exact absurd blank (by decide)
  have trimmed := Text.map_trim_splitAt_trim solid (first.writeAll rest)
  rw [splitAt_writeAll, List.map_map] at trimmed
  have name (part : Part) : String.ofList (Text.trim part.write) = part.name := by
    rw [trim_write, String.ofList_toList]
  calc _ = ((Text.splitAt (· = '|') (Text.trim (first.writeAll rest))).map Text.trim).map
        String.ofList := (List.map_map ..).symm
    _ = (first :: rest).map Part.name := by
        rw [trimmed, List.map_map]
        exact congrArg (List.map · _) (funext name)

/-- The instructions that put out a variable after some filters. -/
def code (subject : Part) (filters : List Part) : Code :=
  .lookup subject.name :: filters.map (fun filter => .filter filter.name 0) ++ [.emit]

theorem expressionCode_writeAll {subject : Part} {filters : List Part}
    (ordinary : filters = [] → subject.name ≠ "super()") :
    expressionCode (Text.trim (subject.writeAll filters)) = subject.code filters := by
  have names := names_writeAll subject filters
  unfold expressionCode
  split
  · rename_i super
    -- A text without a bar is one name, which is not the one that `super` is asked for with.
    rw [super] at names
    have alone : ["super()"] = (subject :: filters).map Part.name := names
    obtain ⟨name, others⟩ := List.cons.inj alone
    exact absurd name.symm (ordinary (List.map_eq_nil_iff.1 others.symm))
  · rw [names]
    simp only [List.map_cons, List.map_map]
    rfl

end Part

/-! ### Directives -/

/-- The name of a block, which is one word in its tag. -/
structure Title where
  name : String
  named : name ≠ "" := by decide
  solid : name.toList.any Text.isBlank = false := by decide
  unclosed : '%' ∉ name.toList := by decide

/-- What stands in the tag that opens a block. -/
def Title.opening (title : Title) : List Char := " block ".toList ++ title.name.toList ++ [' ']

/-- What stands in the tag that closes a block. -/
def closing : List Char := " endblock ".toList

theorem Title.unclosed_opening (title : Title) : '%' ∉ title.opening := by
  intro member
  rcases List.mem_append.1 member with front | space
  · rcases List.mem_append.1 front with word | named
    · exact absurd word (by decide)
    · exact title.unclosed named
  · exact absurd space (by decide)

theorem Title.ofWords_opening (title : Title) :
    Directive.ofWords (Text.words (Text.trim title.opening)) = .opening (some title.name) := by
  have space : Text.isBlank ' ' = true := by decide
  have solid : ∀ c ∈ title.name.toList, Text.isBlank c = false :=
    fun c member => Bool.eq_false_iff.2 (List.any_eq_false.1 title.solid c member)
  have word : Text.words title.name.toList = [title.name.toList] :=
    Text.words_of_solid solid fun empty => title.named (String.toList_eq_nil_iff.1 empty)
  have block : Text.words " block".toList = ["block".toList] := by decide
  have behind : Text.words (title.name.toList ++ [' ']) = [title.name.toList] := by
    rw [Text.words_append (by simpa using space), word]
  have split : title.opening = " block".toList ++ ' ' :: (title.name.toList ++ [' ']) :=
    List.append_assoc " block ".toList _ _
  rw [Text.words_trim, split, Text.words_append_cons _ _ space, block, behind]
  change Directive.opening (some (String.ofList title.name.toList)) = _
  rw [String.ofList_toList]

theorem ofWords_closing : Directive.ofWords (Text.words (Text.trim closing)) = .closing := by
  decide

end Stencil.Markup
