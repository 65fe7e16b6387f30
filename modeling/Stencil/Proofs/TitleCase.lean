import Stencil.Filter.Builtin

set_option autoImplicit false

namespace Stencil.Text

/-! ### Words and separators -/

/-- The punctuation of ASCII, character by character. -/
def punctuation : String := "!\x22#$%&\x27()*+,-./:;<=>?@[\\]^_\x60\x7b|\x7d~"

theorem asciiPunctuation_contains_iff {c : Char} :
    asciiPunctuation.contains c = true ↔ c ∈ punctuation.toList := by
  constructor
  · intro inside
    have listed : ∀ code < 0x7f, asciiPunctuation.contains (Char.ofNat code) = true →
        Char.ofNat code ∈ punctuation.toList := by decide +kernel
    have low : c.toNat < 0x7f := by
      simp only [CharSet.contains, asciiPunctuation, List.any_cons, List.any_nil, Bool.or_eq_true,
        Bool.and_eq_true, decide_eq_true_eq, Bool.false_eq_true, or_false] at inside
      omega
    have here := listed c.toNat low
    rw [Char.ofNat_toNat] at here
    exact here inside
  · intro member
    have inside : punctuation.toList.all asciiPunctuation.contains = true := by decide +kernel
    exact List.all_eq_true.1 inside c member

abbrev Separator := { c : Char // separatesWords c = true }

/-- A stretch without separators. -/
abbrev Word := { cs : List Char // ∀ c ∈ cs, separatesWords c = false }

/-- Words with one separator between neighbours. -/
inductive Line where
  | last (word : Word)
  | next (word : Word) (separator : Separator) (rest : Line)

def Line.text : Line → List Char
  | last word => word.1
  | next word separator rest => word.1 ++ separator.1 :: rest.text

/-- A word in title case: the first character in upper case, and the others in lower case each by
itself. -/
def titleWord : List Char → List Char
  | [] => []
  | c :: rest => upperChar c ++ rest.flatMap lowerChar

def Line.titled : Line → List Char
  | last word => titleWord word.1
  | next word separator rest => titleWord word.1 ++ separator.1 :: rest.titled

/-! ### Cutting a text into words -/

def Word.empty : Word := ⟨[], fun _ member => absurd member List.not_mem_nil⟩

def Word.push (word : Word) {c : Char} (inside : separatesWords c = false) : Word :=
  ⟨c :: word.1, List.forall_mem_cons.2 ⟨inside, word.2⟩⟩

def Line.push (line : Line) {c : Char} (inside : separatesWords c = false) : Line :=
  match line with
  | last word => last (word.push inside)
  | next word separator rest => next (word.push inside) separator rest

def Line.cut : List Char → Line
  | [] => last .empty
  | c :: rest =>
    if separates : separatesWords c = true then next .empty ⟨c, separates⟩ (cut rest)
    else (cut rest).push (Bool.not_eq_true _ ▸ separates)

namespace Line

theorem text_push (line : Line) {c : Char} (inside : separatesWords c = false) :
    (line.push inside).text = c :: line.text := by
  cases line <;> rfl

theorem text_cut (cs : List Char) : (cut cs).text = cs := by
  induction cs with
  | nil => rfl
  | cons c rest ih =>
      rw [cut]
      split
      · exact congrArg (c :: ·) ih
      · rw [text_push, ih]

theorem cut_of_separator {c : Char} (separates : separatesWords c = true) (rest : List Char) :
    cut (c :: rest) = next .empty ⟨c, separates⟩ (cut rest) := by
  rw [cut, dif_pos separates]

theorem cut_of_inside {c : Char} (inside : separatesWords c = false) (rest : List Char) :
    cut (c :: rest) = (cut rest).push inside := by
  rw [cut, dif_neg (by rw [inside]; decide)]

theorem cut_word (word : Word) : cut word.1 = last word := by
  obtain ⟨cs, inside⟩ := word
  induction cs with
  | nil => rfl
  | cons c cs ih =>
      obtain ⟨here, later⟩ := List.forall_mem_cons.1 inside
      rw [cut_of_inside here, ih later]
      rfl

theorem cut_word_append (word : Word) (separator : Separator) (rest : List Char) :
    cut (word.1 ++ separator.1 :: rest) = next word separator (cut rest) := by
  obtain ⟨cs, inside⟩ := word
  induction cs with
  | nil => exact cut_of_separator separator.2 rest
  | cons c cs ih =>
      obtain ⟨here, later⟩ := List.forall_mem_cons.1 inside
      rw [List.cons_append, cut_of_inside here, ih later]
      rfl

theorem cut_text (line : Line) : cut line.text = line := by
  induction line with
  | last word => exact cut_word word
  | next word separator rest ih => rw [text, cut_word_append, ih]

/-- A text is one line of words, and no other. -/
theorem text_eq_iff (line : Line) (cs : List Char) : line.text = cs ↔ line = cut cs := by
  constructor
  · rintro rfl
    exact (cut_text line).symm
  · rintro rfl
    exact text_cut cs

end Line

/-! ### Title case -/

/-- Behind a separator a word begins, whatever stood in front of it. -/
theorem titleFrom_append_separator (opening : Bool) (front rest : List Char)
    (separator : Separator) : titleFrom opening (front ++ separator.1 :: rest) =
      titleFrom opening front ++ separator.1 :: titleFrom true rest := by
  induction front generalizing opening with
  | nil => exact if_pos separator.2
  | cons c front ih =>
      rw [List.cons_append, titleFrom, titleFrom]
      split
      · rw [ih, List.cons_append]
      · rw [ih, List.append_assoc]

theorem titleFrom_false_of_inside {cs : List Char} (inside : ∀ c ∈ cs, separatesWords c = false) :
    titleFrom false cs = cs.flatMap lowerChar := by
  induction cs with
  | nil => rfl
  | cons c cs ih =>
      obtain ⟨here, later⟩ := List.forall_mem_cons.1 inside
      rw [titleFrom, if_neg (by rw [here]; decide), ih later]
      rfl

theorem title_word (word : Word) : title word.1 = titleWord word.1 := by
  obtain ⟨cs, inside⟩ := word
  cases cs with
  | nil => rfl
  | cons c cs =>
      obtain ⟨here, later⟩ := List.forall_mem_cons.1 inside
      rw [title, titleFrom, if_neg (by rw [here]; decide), titleFrom_false_of_inside later]
      rfl

theorem title_text (line : Line) : title line.text = line.titled := by
  induction line with
  | last word => exact title_word word
  | next word separator rest ih =>
      calc title (word.1 ++ separator.1 :: rest.text)
          = title word.1 ++ separator.1 :: title rest.text :=
            titleFrom_append_separator true word.1 rest.text separator
        _ = titleWord word.1 ++ separator.1 :: rest.titled := by rw [title_word, ih]

theorem title_apply (value : Value) : Filter.title.apply value [] =
    .ok (.string (String.ofList (title value.output.toList))) := rfl

/-- The output form of a value is one line of words, and the title filter writes the same line with
each word in title case. The separators are the punctuation of ASCII and white space. They stay as
they are, and what stands on both sides of one can be written on its own. -/
theorem title_word_by_word (value : Value) :
    (∃ line : Line, (∀ other : Line, other.text = value.output.toList ↔ other = line) ∧
      Filter.title.apply value [] = .ok (.string (String.ofList line.titled))) ∧
    (∀ c : Char, separatesWords c = true ↔ c ∈ punctuation.toList ∨ isBlank c = true) ∧
    ∀ (front behind : Value) (separator : Char), separatesWords separator = true →
      value.output = front.output ++ String.singleton separator ++ behind.output →
      ∃ first second, Filter.title.apply front [] = .ok (.string first) ∧
        Filter.title.apply behind [] = .ok (.string second) ∧
        Filter.title.apply value [] =
          .ok (.string (first ++ String.singleton separator ++ second)) := by
  refine ⟨⟨Line.cut value.output.toList, ?_, ?_⟩, ?_, ?_⟩
  · intro other
    exact other.text_eq_iff value.output.toList
  · rw [title_apply, ← title_text, Line.text_cut]
  · intro c
    rw [separatesWords, Bool.or_eq_true, asciiPunctuation_contains_iff]
  · intro front behind separator separates cut
    refine ⟨_, _, title_apply front, title_apply behind, ?_⟩
    have written : title value.output.toList =
        title front.output.toList ++ separator :: title behind.output.toList := by
      rw [cut, String.toList_append, String.toList_append, String.toList_singleton,
        List.append_assoc]
      exact titleFrom_append_separator true _ _ ⟨separator, separates⟩
    rw [title_apply, written, String.ofList_append, String.ofList_cons, String.append_assoc]

/-- A first character with a longer upper case, a word that goes on behind a digit, and a capital
sigma that is not final. -/
theorem title_word_by_word_hyphenated :
    let front : Value := .string "ßETA"
    let behind : Value := .string "9ΣΑΣ"
    let value : Value := .string "ßETA-9ΣΑΣ"
    separatesWords '-' = true ∧
    value.output = front.output ++ String.singleton '-' ++ behind.output ∧
    Filter.title.apply front [] = .ok (.string "SSeta") ∧
    Filter.title.apply behind [] = .ok (.string "9σασ") ∧
    Filter.title.apply value [] = .ok (.string "SSeta-9σασ") := by
  intro front behind value
  have separates : separatesWords '-' = true := by decide
  have cut : value.output = front.output ++ String.singleton '-' ++ behind.output := by
    decide +kernel
  obtain ⟨-, -, joined⟩ := title_word_by_word value
  obtain ⟨first, second, one, two, whole⟩ := joined front behind '-' separates cut
  have opened : String.ofList (title front.output.toList) = "SSeta" := by decide +kernel
  have closed : String.ofList (title behind.output.toList) = "9σασ" := by decide +kernel
  rw [title_apply, opened] at one
  rw [title_apply, closed] at two
  cases one
  cases two
  exact ⟨separates, cut, by rw [title_apply, opened], by rw [title_apply, closed], whole⟩

end Stencil.Text
