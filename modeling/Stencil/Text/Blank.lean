import Stencil.Text.CharSet

set_option autoImplicit false

namespace Stencil.Text

/-- The characters with the property White_Space. -/
def blankChars : CharSet := [
  (0x9, 0xd), (0x20, 0x20), (0x85, 0x85), (0xa0, 0xa0), (0x1680, 0x1680), (0x2000, 0x200a),
  (0x2028, 0x2029), (0x202f, 0x202f), (0x205f, 0x205f), (0x3000, 0x3000)]

def isBlank (c : Char) : Bool := blankChars.contains c

/-- The characters without those at either end that satisfy the test. -/
def stripBoth (strip : Char → Bool) (cs : List Char) : List Char :=
  ((cs.dropWhile strip).reverse.dropWhile strip).reverse

def trim (cs : List Char) : List Char := stripBoth isBlank cs

/-- The pieces between the characters that satisfy the test, empty ones included. -/
def splitAt (cut : Char → Bool) : List Char → List (List Char)
  | [] => [[]]
  | c :: rest =>
    if cut c then [] :: splitAt cut rest
    else
      match splitAt cut rest with
      | [] => [[c]]
      | piece :: pieces => (c :: piece) :: pieces

/-- The words of a text: its longest stretches without white space. -/
def words (cs : List Char) : List (List Char) :=
  (splitAt isBlank cs).filter fun word => !word.isEmpty

/-- What is stripped may stand in front already. -/
theorem stripBoth_prepend {strip : Char → Bool} {lead : List Char}
    (stripped : ∀ c ∈ lead, strip c = true) (cs : List Char) :
    stripBoth strip (lead ++ cs) = stripBoth strip cs := by
  rw [stripBoth, List.dropWhile_append_of_pos stripped, stripBoth]

/-- What is stripped may stand behind already. -/
theorem stripBoth_append {strip : Char → Bool} {trail : List Char}
    (stripped : ∀ c ∈ trail, strip c = true) (cs : List Char) :
    stripBoth strip (cs ++ trail) = stripBoth strip cs := by
  have reversed : ∀ c ∈ trail.reverse, strip c = true :=
    fun c member => stripped c (List.mem_reverse.1 member)
  unfold stripBoth
  rw [List.dropWhile_append]
  split
  · rename_i empty
    have nothing : (trail ++ []).dropWhile strip = [] := List.dropWhile_append_of_pos stripped
    rw [List.append_nil] at nothing
    rw [List.isEmpty_iff.1 empty, nothing]
  · rw [List.reverse_append, List.dropWhile_append_of_pos reversed]

/-- White space around a text does not count. -/
theorem trim_surrounded {lead trail : List Char} (before : ∀ c ∈ lead, isBlank c = true)
    (behind : ∀ c ∈ trail, isBlank c = true) (cs : List Char) :
    trim (lead ++ cs ++ trail) = trim cs :=
  (stripBoth_append behind (lead ++ cs)).trans (stripBoth_prepend before cs)

/-- Trimming takes white space away and nothing else. -/
theorem exists_trim (cs : List Char) : ∃ lead trail, (∀ c ∈ lead, isBlank c = true) ∧
    (∀ c ∈ trail, isBlank c = true) ∧ cs = lead ++ trim cs ++ trail := by
  let rest := cs.dropWhile isBlank
  have taken : ∀ ds : List Char, ∀ c ∈ ds.takeWhile isBlank, isBlank c = true :=
    fun ds => List.all_eq_true.1 List.all_takeWhile
  refine ⟨cs.takeWhile isBlank, (rest.reverse.takeWhile isBlank).reverse, taken cs,
    fun c member => taken _ c (List.mem_reverse.1 member), ?_⟩
  have ended : trim cs ++ (rest.reverse.takeWhile isBlank).reverse = rest := by
    change (rest.reverse.dropWhile isBlank).reverse ++ _ = rest
    rw [← List.reverse_append, List.takeWhile_append_dropWhile, List.reverse_reverse]
  rw [List.append_assoc, ended, List.takeWhile_append_dropWhile]

/-- Cutting a text never yields nothing: even the empty text has one piece. -/
theorem splitAt_ne_nil (cut : Char → Bool) (cs : List Char) : splitAt cut cs ≠ [] := by
  cases cs with
  | nil => simp [splitAt]
  | cons c rest =>
    unfold splitAt
    split
    · simp
    · split <;> simp

/-- Cutting at one place cuts the text before it and the text behind it. -/
theorem splitAt_append_cons (cut : Char → Bool) (before rest : List Char) {c : Char}
    (h : cut c = true) :
    splitAt cut (before ++ c :: rest) = splitAt cut before ++ splitAt cut rest := by
  induction before with
  | nil => simp [splitAt, h]
  | cons d before ih =>
    rw [List.cons_append, splitAt, splitAt, ih]
    split
    · rfl
    · cases pieces : splitAt cut before with
      | nil => exact absurd pieces (splitAt_ne_nil cut before)
      | cons piece more => rfl

/-- A text without a place to cut is one piece. -/
theorem splitAt_of_uncut {cut : Char → Bool} {cs : List Char} (uncut : ∀ c ∈ cs, cut c = false) :
    splitAt cut cs = [cs] := by
  induction cs with
  | nil => rfl
  | cons c rest ih =>
    obtain ⟨first, others⟩ := List.forall_mem_cons.1 uncut
    rw [splitAt, if_neg (Bool.eq_false_iff.1 first), ih others]

/-- What cuts a text is in none of its pieces. -/
theorem uncut_of_mem_splitAt {cut : Char → Bool} {cs piece : List Char}
    (member : piece ∈ splitAt cut cs) : ∀ c ∈ piece, cut c = false := by
  induction cs generalizing piece with
  | nil =>
    obtain rfl := List.mem_singleton.1 member
    exact fun _ impossible => absurd impossible List.not_mem_nil
  | cons c rest ih =>
    rw [splitAt] at member
    split at member
    · rcases List.mem_cons.1 member with rfl | later
      · exact fun _ impossible => absurd impossible List.not_mem_nil
      · exact ih later
    · rename_i stays
      split at member
      · rename_i nothing
        exact absurd nothing (splitAt_ne_nil cut rest)
      · rename_i first others pieces
        rcases List.mem_cons.1 member with rfl | later
        · have first := ih (pieces ▸ List.mem_cons_self)
          exact List.forall_mem_cons.2 ⟨Bool.eq_false_iff.2 stays, first⟩
        · exact ih (pieces ▸ List.mem_cons_of_mem _ later)

section Pieces

variable {cut : Char → Bool}

/-- A text in front without a place to cut belongs to the first piece. -/
theorem splitAt_prepend {lead : List Char} (uncut : ∀ c ∈ lead, cut c = false) (cs : List Char) :
    ∃ first others, splitAt cut cs = first :: others ∧
      splitAt cut (lead ++ cs) = (lead ++ first) :: others := by
  induction lead with
  | nil =>
    cases pieces : splitAt cut cs with
    | nil => exact absurd pieces (splitAt_ne_nil cut cs)
    | cons first others => exact ⟨first, others, rfl, pieces⟩
  | cons c lead ih =>
    obtain ⟨here, later⟩ := List.forall_mem_cons.1 uncut
    obtain ⟨first, others, pieces, longer⟩ := ih later
    refine ⟨first, others, pieces, ?_⟩
    rw [List.cons_append, splitAt, if_neg (Bool.eq_false_iff.1 here), longer]
    rfl

/-- A text behind without a place to cut belongs to the last piece. -/
theorem splitAt_append {trail : List Char} (uncut : ∀ c ∈ trail, cut c = false) (cs : List Char) :
    ∃ front last, splitAt cut cs = front ++ [last] ∧
      splitAt cut (cs ++ trail) = front ++ [last ++ trail] := by
  induction cs with
  | nil => exact ⟨[], [], rfl, splitAt_of_uncut uncut⟩
  | cons c cs ih =>
    obtain ⟨front, last, pieces, longer⟩ := ih
    rw [List.cons_append, splitAt, splitAt, pieces, longer]
    split
    · exact ⟨[] :: front, last, rfl, rfl⟩
    · cases front with
      | nil => exact ⟨[], c :: last, rfl, rfl⟩
      | cons first more => exact ⟨(c :: first) :: more, last, rfl, rfl⟩

/-- Pieces that are trimmed anyway are those of the trimmed text, where no white space cuts. -/
theorem map_trim_splitAt_trim (solid : ∀ c, isBlank c = true → cut c = false) (cs : List Char) :
    (splitAt cut (trim cs)).map trim = (splitAt cut cs).map trim := by
  obtain ⟨lead, trail, before, behind, same⟩ := exists_trim cs
  obtain ⟨front, last, pieces, longer⟩ :=
    splitAt_append (fun c member => solid c (behind c member)) (trim cs)
  obtain ⟨first, others, ended, whole⟩ :=
    splitAt_prepend (fun c member => solid c (before c member)) (trim cs ++ trail)
  have start : trim (lead ++ first) = trim first := stripBoth_prepend before first
  have finish : trim (last ++ trail) = trim last := stripBoth_append behind last
  calc (splitAt cut (trim cs)).map trim
      = (front ++ [last ++ trail]).map trim := by
        rw [pieces, List.map_append, List.map_append, List.map_singleton, List.map_singleton, finish]
    _ = ((lead ++ first) :: others).map trim := by
        rw [← longer, ended, List.map_cons, List.map_cons, start]
    _ = (splitAt cut cs).map trim := by rw [← whole, ← List.append_assoc, ← same]

end Pieces

/-- White space ends a word. -/
theorem words_append_cons (before rest : List Char) {c : Char} (h : isBlank c = true) :
    words (before ++ c :: rest) = words before ++ words rest := by
  rw [words, splitAt_append_cons isBlank before rest h, List.filter_append, words, words]

/-- White space in front of words is no word. -/
theorem words_prepend {lead : List Char} (blank : ∀ c ∈ lead, isBlank c = true) (cs : List Char) :
    words (lead ++ cs) = words cs := by
  induction lead with
  | nil => rfl
  | cons c lead ih =>
    obtain ⟨here, later⟩ := List.forall_mem_cons.1 blank
    exact (words_append_cons [] (lead ++ cs) here).trans (ih later)

/-- White space behind words is no word. -/
theorem words_append {trail : List Char} (blank : ∀ c ∈ trail, isBlank c = true) (cs : List Char) :
    words (cs ++ trail) = words cs := by
  cases trail with
  | nil => rw [List.append_nil]
  | cons c trail =>
    obtain ⟨here, later⟩ := List.forall_mem_cons.1 blank
    have nothing := words_prepend later []
    rw [List.append_nil] at nothing
    rw [words_append_cons cs trail here, nothing]
    exact List.append_nil _

theorem words_trim (cs : List Char) : words (trim cs) = words cs := by
  obtain ⟨lead, trail, before, behind, same⟩ := exists_trim cs
  have words := (words_append behind (lead ++ trim cs)).trans (words_prepend before (trim cs))
  rw [← same] at words
  exact words.symm

/-- A text without white space is a word, unless it is empty. -/
theorem words_of_solid {word : List Char} (solid : ∀ c ∈ word, isBlank c = false)
    (visible : word ≠ []) : words word = [word] := by
  rw [words, splitAt_of_uncut solid]
  exact List.filter_cons_of_pos (by simpa using visible)

end Stencil.Text
