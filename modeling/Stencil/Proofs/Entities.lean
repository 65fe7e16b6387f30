import Stencil.Proofs.Escaping

set_option autoImplicit false

namespace Stencil.Html

/-- An entity begins with an ampersand, and is plain behind it. -/
theorem entity_shape {text : String} {c : Char} (listed : (text, c) ∈ entities) :
    ∃ name, text.toList = '&' :: name ∧ ∀ d ∈ name, entity? d = none := by
  have shape : ∀ entity ∈ entities, entity.1.toList.head? = some '&' ∧
      entity.1.toList.tail.all (fun d => (entity? d).isNone) = true := by decide
  obtain ⟨opened, plain⟩ := shape (text, c) listed
  obtain ⟨name, written⟩ := List.head?_eq_some_iff.1 opened
  change text.toList = _ at written
  rw [written, List.tail_cons, List.all_eq_true] at plain
  exact ⟨name, written, fun d member => Option.isNone_iff_eq_none.1 (plain d member)⟩

theorem entity?_ampersand : entity? '&' = some "&amp;" := rfl

theorem ne_ampersand_of_plain {c : Char} (plain : entity? c = none) : c ≠ '&' := by
  rintro rfl
  rw [entity?_ampersand] at plain
  cases plain

/-! ### What escaped text is made of -/

theorem plain_or_ampersand_of_mem_escapeChar {c d : Char} (member : d ∈ escapeChar c) :
    entity? d = none ∨ d = '&' := by
  cases written : entity? c with
  | none =>
      rw [escapeChar_of_plain written, List.mem_singleton] at member
      exact Or.inl (member ▸ written)
  | some text =>
      obtain ⟨name, shape, plain⟩ := entity_shape (entity?_eq_some_iff.1 written)
      rw [escapeChar_of_entity written, shape, List.mem_cons] at member
      exact member.symm.imp_left (plain d)

theorem plain_or_ampersand_of_mem_escapeChars {cs : List Char} {d : Char}
    (member : d ∈ escapeChars cs) : entity? d = none ∨ d = '&' := by
  obtain ⟨c, -, here⟩ := List.mem_flatMap.1 member
  exact plain_or_ampersand_of_mem_escapeChar here

/-- What comes before an ampersand includes any beginning that has none. -/
theorem split_behind {cs rest before after : List Char} (absent : '&' ∉ cs)
    (split : cs ++ rest = before ++ '&' :: after) :
    ∃ front, before = cs ++ front ∧ rest = front ++ '&' :: after := by
  induction cs generalizing before with
  | nil => exact ⟨before, rfl, split⟩
  | cons c cs ih =>
      rw [List.mem_cons, not_or] at absent
      cases before with
      | nil => exact absurd (List.cons.inj split).1.symm absent.1
      | cons d before =>
          obtain ⟨rfl, later⟩ := List.cons.inj split
          obtain ⟨front, rfl, behind⟩ := ih absent.2 later
          exact ⟨front, rfl, behind⟩

/-- Escaping `cs` wrote the entity of one of its characters behind `before` and in front of all else
that lies `ahead`. -/
def EntityBegins (cs before ahead : List Char) : Prop :=
  ∃ done c rest text, cs = done ++ c :: rest ∧ (text, c) ∈ entities ∧
    before = escapeChars done ∧ ahead = text.toList ++ escapeChars rest

theorem EntityBegins.cons {cs before ahead : List Char} (begins : EntityBegins cs before ahead)
    (c : Char) : EntityBegins (c :: cs) (escapeChar c ++ before) ahead := by
  obtain ⟨done, d, rest, text, rfl, listed, rfl, rfl⟩ := begins
  exact ⟨c :: done, d, rest, text, rfl, listed, (escapeChars_cons c done).symm, rfl⟩

/-- An escaped text has no other ampersands than those that begin an entity. -/
theorem entityBegins_at_ampersand {cs before after : List Char}
    (split : escapeChars cs = before ++ '&' :: after) : EntityBegins cs before ('&' :: after) := by
  induction cs generalizing before with
  | nil => exact absurd split.symm (List.append_ne_nil_of_right_ne_nil _ (List.cons_ne_nil _ _))
  | cons c cs ih =>
      rw [escapeChars_cons] at split
      cases written : entity? c with
      | none =>
          have absent : '&' ∉ escapeChar c := by
            rw [escapeChar_of_plain written, List.mem_singleton]
            exact (ne_ampersand_of_plain written).symm
          obtain ⟨front, rfl, later⟩ := split_behind absent split
          exact (ih later).cons c
      | some text =>
          have listed : (text, c) ∈ entities := entity?_eq_some_iff.1 written
          obtain ⟨name, shape, plain⟩ := entity_shape listed
          have absent : '&' ∉ name := fun inside => ne_ampersand_of_plain (plain _ inside) rfl
          have whole : escapeChar c = '&' :: name := (escapeChar_of_entity written).trans shape
          cases before with
          | nil =>
              rw [escapeChar_of_entity written] at split
              exact ⟨[], c, cs, text, rfl, listed, rfl, split.symm⟩
          | cons d before =>
              rw [whole] at split
              obtain ⟨rfl, behind⟩ := List.cons.inj split
              obtain ⟨front, rfl, later⟩ := split_behind absent behind
              have passed := (ih later).cons c
              rwa [whole] at passed

/-! ### Reading entities -/

/-- The characters of an entity that was read are passed over. -/
theorem unescapeFrom_length (name rest : List Char) :
    unescapeFrom name.length (name ++ rest) = unescapeFrom 0 rest := by
  induction name with
  | nil => rfl
  | cons c name ih => exact ih

theorem entityAhead?_of_plain {c : Char} (plain : entity? c = none) (rest : List Char) :
    entityAhead? (c :: rest) = none := by
  rw [entityAhead?, List.find?_eq_none]
  rintro ⟨text, d⟩ listed ahead
  obtain ⟨name, shape, -⟩ := entity_shape listed
  rw [shape, List.isPrefixOf_iff_prefix, List.cons_prefix_cons] at ahead
  exact ne_ampersand_of_plain plain ahead.1.symm

/-- No entity is the beginning of another, so the one that was written is found. -/
theorem entityAhead?_append (rest : List Char) :
    ∀ entity ∈ entities, entityAhead? (entity.1.toList ++ rest) = some entity := by
  simp only [entities, List.forall_mem_cons]
  exact ⟨rfl, rfl, rfl, rfl, rfl, rfl, fun _ nothing => absurd nothing List.not_mem_nil⟩

theorem unescape_escapeChars (cs : List Char) : unescape (escapeChars cs) = cs := by
  induction cs with
  | nil => rfl
  | cons c cs ih =>
      rw [escapeChars_cons]
      cases written : entity? c with
      | none =>
          rw [escapeChar_of_plain written, List.singleton_append, unescape, unescapeFrom,
            entityAhead?_of_plain written]
          exact congrArg (c :: ·) ih
      | some text =>
          have listed := entity?_eq_some_iff.1 written
          obtain ⟨name, shape, -⟩ := entity_shape listed
          have ahead := entityAhead?_append (escapeChars cs) (text, c) listed
          have length : text.length - 1 = name.length := by
            rw [← String.length_toList, shape, List.length_cons, Nat.add_sub_cancel]
          rw [escapeChar_of_entity written]
          rw [shape, List.cons_append] at ahead ⊢
          rw [unescape, unescapeFrom, ahead]
          change c :: unescapeFrom (text.length - 1) (name ++ escapeChars cs) = c :: cs
          rw [length, unescapeFrom_length]
          exact congrArg (c :: ·) ih

/-- Escaped text has none of the characters that open or close markup, and an ampersand in it is the
first character of an entity that was written for a character of the text. Reading the entities
from left to right gives the text back, so different texts are escaped differently. -/
theorem escaped_text_reads_back (text : String) :
    (∀ c ∈ ['<', '>', '\x22', '\x27', '/'], c ∉ (escape text).toList) ∧
    (∀ before after, (escape text).toList = before ++ '&' :: after →
      EntityBegins text.toList before ('&' :: after)) ∧
    unescape (escape text).toList = text.toList ∧
    ∀ other, escape text = escape other → text = other := by
  have back : ∀ text, unescape (escape text).toList = text.toList := by
    intro text
    rw [toList_escape, unescape_escapeChars]
  refine ⟨?_, ?_, back text, ?_⟩
  · intro c markup member
    rw [toList_escape] at member
    have escaped : ['<', '>', '\x22', '\x27', '/'].all
        (fun c => entity? c != none && c != '&') = true := by decide
    have here := List.all_eq_true.1 escaped c markup
    rw [Bool.and_eq_true, bne_iff_ne, bne_iff_ne] at here
    rcases plain_or_ampersand_of_mem_escapeChars member with plain | ampersand
    · exact here.1 plain
    · exact here.2 ampersand
  · intro before after split
    rw [toList_escape] at split
    exact entityBegins_at_ampersand split
  · intro other same
    rw [← String.toList_inj, ← back text, same, back other]

/-- A text that was escaped already is escaped once more, and differs from what was escaped once. -/
theorem escaped_text_reads_back_twice :
    let text := escape "</b>"
    escape text = "&amp;lt;&amp;#x2f;b&amp;gt;" ∧ '/' ∉ (escape text).toList ∧
    EntityBegins text.toList "&amp;lt;".toList "&amp;#x2f;b&amp;gt;".toList ∧
    unescape (escape text).toList = text.toList ∧ escape text ≠ escape "</b>" := by
  intro text
  have escaped : escape text = "&amp;lt;&amp;#x2f;b&amp;gt;" := by decide +kernel
  have split : (escape text).toList = "&amp;lt;".toList ++ '&' :: "amp;#x2f;b&amp;gt;".toList := by
    rw [escaped]
    rfl
  obtain ⟨harmless, begins, back, apart⟩ := escaped_text_reads_back text
  refine ⟨escaped, harmless '/' (by decide), begins _ _ split, back, ?_⟩
  intro same
  have equal : text = "</b>" := apart _ same
  revert equal
  decide +kernel

end Stencil.Html
