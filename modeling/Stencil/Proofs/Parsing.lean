import Stencil.Markup.Document
import Stencil.Proofs.Heights

set_option autoImplicit false

namespace Stencil.Markup

/-- A body of a block: it has a name, finds enough values, and contains no block. -/
structure SoundBody (entry : String × Code) : Prop where
  named : entry.1 ≠ ""
  balanced : entry.2.Balanced
  flat : ∀ name, .block name ∉ entry.2

structure Document.Sound (doc : Document) : Prop where
  root : doc.root.Balanced
  called : ∀ name, .block name ∈ doc.root → name ∈ doc.blocks.map (·.1)
  bodies : ∀ entry ∈ doc.blocks, SoundBody entry

/-- The invariant of reading. A block that is called is either finished or still open. -/
structure Reading.Sound (reading : Reading) : Prop where
  root : Code.Balanced reading.root.reverse
  called : ∀ name, .block name ∈ reading.root →
    name ∈ reading.blocks.map (·.1) ∨ ∃ body, reading.current = some (name, body)
  bodies : ∀ entry ∈ reading.blocks, SoundBody entry
  current : ∀ name body, reading.current = some (name, body) → SoundBody (name, body.reverse)

def Directive.parent? : Directive → Option String
  | .inherit parent => parent
  | _ => none

def Piece.parent? : Piece → Option String
  | .tag .directive inside => (Directive.ofWords (Text.words inside)).parent?
  | _ => none

/-- The templates that a text asks to extend, in order. -/
def extended (text : String) : List String := (pieces text.toList).filterMap Piece.parent?

theorem height_filters (filters : List String) (height : Nat) :
    Code.height (height + 1) (filters.map fun filter => .filter filter 0) = some (height + 1) := by
  induction filters with
  | nil => rfl
  | cons filter rest ih =>
      rw [List.map_cons, Code.height_cons]
      exact ih

theorem balanced_expressionCode (inside : List Char) : (expressionCode inside).Balanced := by
  unfold expressionCode
  split
  · rfl
  · split
    · exact Code.balanced_nil
    · rename_i name filters _
      unfold Code.Balanced
      rw [List.cons_append, Code.height_cons, Op.height, Option.bind_some, Code.height_append,
        height_filters]
      rfl

theorem flat_expressionCode (inside : List Char) (name : String) :
    .block name ∉ expressionCode inside := by
  unfold expressionCode
  split
  · simp
  · split <;> simp

theorem Directive.opening_mem {words : List (List Char)} {name : String}
    (opening : ofWords words = .opening (some name)) : ∃ word ∈ words, name = String.ofList word := by
  cases words with
  | nil => cases opening
  | cons word rest =>
      simp only [ofWords] at opening
      split at opening
      · cases opening
      · split at opening
        · have head := Directive.opening.inj opening
          obtain ⟨named, first, same⟩ := Option.map_eq_some_iff.1 head
          exact ⟨named, List.mem_cons_of_mem word (List.mem_of_head? first), same.symm⟩
        · split at opening
          · cases opening
          · cases opening

/-- A block that is opened has a name, since no word is empty. -/
theorem Directive.opening_named {inside : List Char} {name : String}
    (opening : ofWords (Text.words inside) = .opening (some name)) : name ≠ "" := by
  obtain ⟨word, member, rfl⟩ := opening_mem opening
  intro empty
  have visible := (List.mem_filter.1 member).2
  rw [String.ofList_eq_empty_iff.1 empty] at visible
  cases visible

namespace Reading

variable {reading after : Reading}

/-- A directive that is followed names a template to extend, opens a block where none is open, or
closes the block that is open. -/
theorem follow_cases {directive : Directive} (ended : reading.follow directive = .ok after) :
    (∃ parent, directive = .inherit (some parent) ∧
      after = { reading with parent := some parent }) ∨
    (∃ name, directive = .opening (some name) ∧ reading.current = none ∧
      after = { reading with root := .block name :: reading.root, current := some (name, []) }) ∨
    ∃ name body, directive = .closing ∧ reading.current = some (name, body) ∧
      after = { reading with blocks := (name, body.reverse) :: reading.blocks, current := none } := by
  unfold Reading.follow at ended
  cases directive with
  | unknown => cases ended
  | inherit parent =>
      cases parent with
      | none => cases ended
      | some parent =>
          cases ended
          exact Or.inl ⟨parent, rfl, rfl⟩
  | opening block =>
      cases current : reading.current with
      | some entry =>
          simp only [current] at ended
          cases ended
      | none =>
          cases block with
          | none =>
              simp only [current] at ended
              cases ended
          | some name =>
              simp only [current] at ended
              cases ended
              exact Or.inr (Or.inl ⟨name, rfl, rfl, rfl⟩)
  | closing =>
      cases current : reading.current with
      | none =>
          simp only [current] at ended
          cases ended
      | some entry =>
          simp only [current] at ended
          cases ended
          exact Or.inr (Or.inr ⟨_, _, rfl, rfl, rfl⟩)

theorem sound_empty : empty.Sound := by
  refine ⟨Code.balanced_nil, ?_, ?_, ?_⟩
  · exact fun _ impossible => absurd impossible List.not_mem_nil
  · exact fun _ impossible => absurd impossible List.not_mem_nil
  · intro _ _ impossible
    cases impossible

theorem Sound.emit (sound : reading.Sound) {code : Code} (balanced : code.Balanced)
    (flat : ∀ name, .block name ∉ code) : (reading.emit code).Sound := by
  obtain ⟨root, blocks, current, parent⟩ := reading
  cases current with
  | none =>
      refine ⟨?_, ?_, sound.bodies, ?_⟩
      · change Code.Balanced (code.reverse ++ root).reverse
        rw [List.reverse_append, List.reverse_reverse]
        exact sound.root.append balanced
      · intro name called
        rcases List.mem_append.1 called with new | old
        · exact absurd (List.mem_reverse.1 new) (flat name)
        · exact sound.called name old
      · intro name body impossible
        cases impossible
  | some opened =>
      obtain ⟨block, body⟩ := opened
      have before := sound.current block body rfl
      refine ⟨sound.root, ?_, sound.bodies, ?_⟩
      · intro name called
        rcases sound.called name called with finished | ⟨_, same⟩
        · exact Or.inl finished
        · cases same
          exact Or.inr ⟨_, rfl⟩
      · intro name longer same
        cases same
        refine ⟨before.named, ?_, ?_⟩
        · change Code.Balanced (code.reverse ++ body).reverse
          rw [List.reverse_append, List.reverse_reverse]
          exact before.balanced.append balanced
        · intro called member
          change Op.block called ∈ (code.reverse ++ body).reverse at member
          rcases List.mem_append.1 (List.mem_reverse.1 member) with new | old
          · exact flat called (List.mem_reverse.1 new)
          · exact before.flat called (List.mem_reverse.2 old)

theorem Sound.opening (sound : reading.Sound) (closed : reading.current = none) {name : String}
    (named : name ≠ "") :
    Sound { reading with root := .block name :: reading.root, current := some (name, []) } := by
  refine ⟨?_, ?_, sound.bodies, ?_⟩
  · change Code.Balanced (Op.block name :: reading.root).reverse
    rw [List.reverse_cons]
    exact sound.root.append rfl
  · intro other called
    rcases List.mem_cons.1 called with same | old
    · cases same
      exact Or.inr ⟨[], rfl⟩
    · rcases sound.called other old with finished | ⟨body, impossible⟩
      · exact Or.inl finished
      · rw [closed] at impossible
        cases impossible
  · intro other body same
    cases same
    exact ⟨named, Code.balanced_nil, fun _ => List.not_mem_nil⟩

theorem Sound.closing (sound : reading.Sound) {name : String} {body : Code}
    (opened : reading.current = some (name, body)) :
    Sound { reading with blocks := (name, body.reverse) :: reading.blocks, current := none } := by
  refine ⟨sound.root, ?_, ?_, ?_⟩
  · intro other called
    rcases sound.called other called with finished | ⟨_, same⟩
    · exact Or.inl (List.mem_cons_of_mem name finished)
    · rw [opened] at same
      cases same
      exact Or.inl List.mem_cons_self
  · intro entry member
    rcases List.mem_cons.1 member with rfl | old
    · exact sound.current name body opened
    · exact sound.bodies entry old
  · intro other longer impossible
    cases impossible

theorem Sound.follow (sound : reading.Sound) {inside : List Char}
    (ended : reading.follow (.ofWords (Text.words inside)) = .ok after) : after.Sound := by
  rcases follow_cases ended with ⟨parent, -, rfl⟩ | ⟨name, asked, closed, rfl⟩ |
    ⟨name, body, -, opened, rfl⟩
  · exact ⟨sound.root, sound.called, sound.bodies, sound.current⟩
  · exact sound.opening closed (Directive.opening_named asked)
  · exact sound.closing opened

/-- Each piece keeps the invariant. -/
theorem Sound.read (sound : reading.Sound) {piece : Piece} (ended : reading.read piece = .ok after) :
    after.Sound := by
  cases piece with
  | unclosed => cases ended
  | text chars =>
      cases ended
      exact sound.emit rfl fun name => by simp
  | tag tag inside =>
      cases tag with
      | expression =>
          cases ended
          exact sound.emit (balanced_expressionCode inside) (flat_expressionCode inside)
      | directive => exact sound.follow ended

theorem Sound.foldlM {parts : List Piece} (sound : reading.Sound)
    (ended : parts.foldlM Reading.read reading = .ok after) : after.Sound := by
  induction parts generalizing reading with
  | nil =>
      cases ended
      exact sound
  | cons piece rest ih =>
      rw [List.foldlM_cons] at ended
      cases step : reading.read piece with
      | error mistake =>
          rw [step] at ended
          cases ended
      | ok middle =>
          rw [step] at ended
          exact ih (sound.read step) ended

end Reading

/-- A text that is read to its end leaves no block open. -/
theorem Document.parse_cases {text : String} {doc : Document} (parsed : parse text = .ok doc) :
    ∃ reading, (pieces text.toList).foldlM Reading.read Reading.empty = .ok reading ∧
      reading.current = none ∧
      doc = ⟨reading.root.reverse, reading.blocks.reverse, reading.parent⟩ := by
  unfold parse at parsed
  cases folded : (pieces text.toList).foldlM Reading.read Reading.empty with
  | error mistake =>
      rw [folded] at parsed
      cases parsed
  | ok reading =>
      rw [folded] at parsed
      change reading.finish = .ok doc at parsed
      unfold Reading.finish at parsed
      split at parsed
      · cases parsed
      · rename_i closed
        cases parsed
        exact ⟨reading, rfl, Option.not_isSome_iff_eq_none.1 closed, rfl⟩

theorem Document.parse_sound {text : String} {doc : Document} (parsed : parse text = .ok doc) :
    doc.Sound := by
  obtain ⟨reading, folded, closed, rfl⟩ := parse_cases parsed
  have sound := Reading.sound_empty.foldlM folded
  refine ⟨sound.root, ?_, ?_⟩
  · intro name called
    rcases sound.called name (List.mem_reverse.1 called) with finished | ⟨body, opened⟩
    · rw [List.map_reverse]
      exact List.mem_reverse.2 finished
    · rw [closed] at opened
      cases opened
  · intro entry member
    exact sound.bodies entry (List.mem_reverse.1 member)

namespace Reading

variable {reading after : Reading}

/-- The template that a directive asks to extend counts from then on. -/
theorem parent_follow {directive : Directive} (ended : reading.follow directive = .ok after) :
    after.parent = directive.parent?.or reading.parent := by
  rcases follow_cases ended with ⟨parent, rfl, rfl⟩ | ⟨name, rfl, -, rfl⟩ | ⟨name, body, rfl, -, rfl⟩
  · rfl
  · rfl
  · rfl

theorem parent_emit (reading : Reading) (code : Code) :
    (reading.emit code).parent = reading.parent := by
  unfold emit
  split <;> rfl

theorem parent_read {piece : Piece} (ended : reading.read piece = .ok after) :
    after.parent = piece.parent?.or reading.parent := by
  cases piece with
  | unclosed => cases ended
  | text chars =>
      cases ended
      exact parent_emit reading _
  | tag tag inside =>
      cases tag with
      | expression =>
          cases ended
          exact parent_emit reading _
      | directive => exact parent_follow ended

theorem parent_foldlM {parts : List Piece} (ended : parts.foldlM Reading.read reading = .ok after) :
    after.parent = (parts.filterMap Piece.parent?).getLast?.or reading.parent := by
  induction parts generalizing reading with
  | nil =>
      cases ended
      rfl
  | cons piece rest ih =>
      rw [List.foldlM_cons] at ended
      cases step : reading.read piece with
      | error mistake =>
          rw [step] at ended
          cases ended
      | ok middle =>
          rw [step] at ended
          rw [ih ended, parent_read step, List.filterMap_cons, ← Option.or_assoc]
          cases piece.parent? with
          | none => rw [Option.or_none]
          | some parent =>
              rw [List.getLast?_cons]
              cases (rest.filterMap Piece.parent?).getLast? <;> rfl

end Reading

/-- The last template that a text asks to extend is the one that counts. -/
theorem Document.parse_parent {text : String} {doc : Document} (parsed : parse text = .ok doc) :
    doc.parent = (extended text).getLast? := by
  obtain ⟨reading, folded, -, rfl⟩ := parse_cases parsed
  exact (Reading.parent_foldlM folded).trans Option.or_none

end Stencil.Markup
