import Stencil.Filter.Builtin

set_option autoImplicit false

namespace Stencil.Html

/-! ### Bytes and characters -/

theorem entity?_eq_some_iff {c : Char} {text : String} :
    entity? c = some text ↔ (text, c) ∈ entities := by
  constructor
  · intro written
    unfold entity? at written
    split at written <;> cases written <;> decide
  · intro listed
    have all : ∀ entity ∈ entities, entity? entity.2 = some entity.1 := by decide
    exact all (text, c) listed

theorem entity?_eq_none_iff {c : Char} : entity? c = none ↔ ∀ entity ∈ entities, entity.2 ≠ c := by
  rw [Option.eq_none_iff_forall_not_mem]
  constructor
  · rintro unwritten ⟨text, written⟩ listed rfl
    exact unwritten text (entity?_eq_some_iff.2 listed)
  · intro unlisted text written
    exact unlisted (text, c) (entity?_eq_some_iff.1 written) rfl

/-- Only ASCII is escaped. -/
theorem lt_of_entity {c : Char} {text : String} (written : entity? c = some text) :
    c.toNat < 0x80 := by
  unfold entity? at written
  split at written <;> cases written <;> decide

theorem escapeChar_of_entity {c : Char} {text : String} (written : entity? c = some text) :
    escapeChar c = text.toList := by
  rw [escapeChar, written]

theorem escapeChar_of_plain {c : Char} (plain : entity? c = none) : escapeChar c = [c] := by
  rw [escapeChar, plain]

theorem escapeChars_cons (c : Char) (cs : List Char) :
    escapeChars (c :: cs) = escapeChar c ++ escapeChars cs := List.flatMap_cons

theorem escapeChars_append (cs ds : List Char) :
    escapeChars (cs ++ ds) = escapeChars cs ++ escapeChars ds := List.flatMap_append

theorem byteEntity?_ofNat {c : Char} (ascii : c.toNat < 0x80) :
    byteEntity? (UInt8.ofNat c.toNat) = entity? c := by
  have size : (UInt8.ofNat c.toNat).toNat = c.toNat := Nat.mod_eq_of_lt (by omega)
  rw [byteEntity?, size, Char.ofNat_toNat]

theorem byteEntity?_of_le {byte : UInt8} (high : 0x80 ≤ byte.toNat) : byteEntity? byte = none := by
  cases written : byteEntity? byte with
  | none => rfl
  | some text =>
      have low : (Char.ofNat byte.toNat).toNat < 0x80 := lt_of_entity written
      have bound : byte.toNat < 2 ^ 8 := byte.toNat_lt
      have valid : byte.toNat.isValidChar := Or.inl (by omega)
      have same : (Char.ofNat byte.toNat).toNat = byte.toNat := by
        rw [Char.ofNat, dif_pos valid]
        rfl
      omega

/-- A character is written as itself, if it is ASCII, or else in bytes that are none of ASCII. -/
theorem utf8EncodeChar_cases (c : Char) :
    (c.toNat < 0x80 ∧ String.utf8EncodeChar c = [UInt8.ofNat c.toNat]) ∨
      (0x80 ≤ c.toNat ∧ ∀ byte ∈ String.utf8EncodeChar c, 0x80 ≤ byte.toNat) := by
  by_cases ascii : c.toNat < 0x80
  · have small : c.val.toNat ≤ 0x7f := Nat.le_of_lt_succ ascii
    refine Or.inl ⟨ascii, ?_⟩
    unfold String.utf8EncodeChar
    rw [if_pos small]
    rfl
  · have large : ¬ c.val.toNat ≤ 0x7f := fun small => ascii (Nat.lt_succ_of_le small)
    refine Or.inr ⟨Nat.le_of_not_lt ascii, ?_⟩
    intro byte member
    simp only [String.utf8EncodeChar, if_neg large] at member
    split at member
    · simp only [List.mem_cons, List.not_mem_nil, or_false] at member
      rcases member with rfl | rfl <;> simp only [UInt8.toNat_ofNat'] <;> omega
    · split at member
      · simp only [List.mem_cons, List.not_mem_nil, or_false] at member
        rcases member with rfl | rfl | rfl <;> simp only [UInt8.toNat_ofNat'] <;> omega
      · simp only [List.mem_cons, List.not_mem_nil, or_false] at member
        rcases member with rfl | rfl | rfl | rfl <;> simp only [UInt8.toNat_ofNat'] <;> omega

theorem utf8EncodeChar_of_entity {c : Char} {text : String} (written : entity? c = some text) :
    ∃ byte, String.utf8EncodeChar c = [byte] ∧ byteEntity? byte = some text := by
  have ascii : c.toNat < 0x80 := lt_of_entity written
  rcases utf8EncodeChar_cases c with ⟨-, single⟩ | ⟨large, -⟩
  · exact ⟨_, single, (byteEntity?_ofNat ascii).trans written⟩
  · omega

/-- A byte that looks like an escaped character is one. -/
theorem byteEntity?_of_plain {c : Char} (plain : entity? c = none) :
    ∀ byte ∈ String.utf8EncodeChar c, byteEntity? byte = none := by
  intro byte member
  rcases utf8EncodeChar_cases c with ⟨ascii, single⟩ | ⟨-, high⟩
  · rw [single, List.mem_singleton] at member
    rw [member, byteEntity?_ofNat ascii, plain]
  · exact byteEntity?_of_le (high byte member)

/-! ### The loop -/

theorem partsFrom_of_plain {bytes : List UInt8} (plain : ∀ byte ∈ bytes, byteEntity? byte = none)
    (start index : Nat) (rest : List UInt8) :
    partsFrom start index (bytes ++ rest) = partsFrom start (index + bytes.length) rest := by
  induction bytes generalizing index with
  | nil => rfl
  | cons byte bytes ih =>
      have here : byteEntity? byte = none := plain byte List.mem_cons_self
      have later : ∀ byte ∈ bytes, byteEntity? byte = none :=
        fun byte member => plain byte (List.mem_cons_of_mem _ member)
      rw [List.cons_append, partsFrom, here]
      change partsFrom start (index + 1) (bytes ++ rest) = _
      rw [ih later, List.length_cons, Nat.add_assoc, Nat.add_comm 1]

/-- The parts stand for a text, one after the other: a slice for the characters between its ends,
which are places between characters of the source, and an entity for itself. -/
inductive Spells (source : String) : List Part → String → Prop where
  /-- No parts stand for the empty text. -/
  | nil : Spells source [] ""
  /-- A slice is never empty. -/
  | copy {before slice after rest : String} {later : List Part}
      (cut : source = before ++ slice ++ after) (nonempty : slice ≠ "")
      (spelled : Spells source later rest) :
      Spells source (.copy before.utf8ByteSize (before ++ slice).utf8ByteSize :: later)
        (slice ++ rest)
  /-- An entity is text already. -/
  | entity {text rest : String} {later : List Part} (spelled : Spells source later rest) :
      Spells source (.entity text :: later) (text ++ rest)

/-- What waits to be copied is copied whole, if it is anything at all. -/
theorem Spells.stretch {source done pending after rest : String} {later : List Part}
    (spelled : Spells source later rest) (cut : source = done ++ pending ++ after) :
    Spells source (stretch done.utf8ByteSize (done ++ pending).utf8ByteSize ++ later)
      (pending ++ rest) := by
  by_cases nothing : pending = ""
  · subst nothing
    rw [String.append_empty, String.empty_append, Html.stretch, if_neg (Nat.lt_irrefl _)]
    exact spelled
  · have positive : pending.utf8ByteSize ≠ 0 :=
      fun empty => nothing (String.utf8ByteSize_eq_zero_iff.1 empty)
    have longer : done.utf8ByteSize < (done ++ pending).utf8ByteSize := by
      rw [String.utf8ByteSize_append]
      omega
    rw [Html.stretch, if_pos longer]
    exact .copy cut nothing spelled

theorem bytes_ofList_cons (c : Char) (cs : List Char) :
    (String.ofList (c :: cs)).toUTF8.data.toList =
      String.utf8EncodeChar c ++ (String.ofList cs).toUTF8.data.toList := by
  simp only [String.toUTF8_eq_toByteArray, String.toByteArray_ofList, List.utf8Encode,
    List.toList_data_toByteArray, List.flatMap_cons]

/-- The invariant of the loop: what is before `pending` is written, `pending` waits to be copied,
and the bytes to come are those of `rest`. -/
theorem spells_partsFrom (rest : List Char) (done pending : String) :
    Spells (done ++ pending ++ String.ofList rest)
      (partsFrom done.utf8ByteSize (done ++ pending).utf8ByteSize
        (String.ofList rest).toUTF8.data.toList)
      (pending ++ String.ofList (escapeChars rest)) := by
  induction rest generalizing done pending with
  | nil =>
      have final : Spells (done ++ pending ++ "") (stretch _ _ ++ []) (pending ++ "") :=
        Spells.nil.stretch rfl
      rwa [List.append_nil] at final
  | cons c rest ih =>
      have length : (String.utf8EncodeChar c).length = (String.singleton c).utf8ByteSize := by
        rw [String.length_utf8EncodeChar, String.utf8ByteSize_singleton]
      rw [bytes_ofList_cons, String.ofList_cons]
      cases written : entity? c with
      | none =>
          -- The character joins what waits to be copied.
          have later := ih done (pending ++ String.singleton c)
          rw [partsFrom_of_plain (byteEntity?_of_plain written), length, escapeChars_cons,
            escapeChar_of_plain written, List.singleton_append, String.ofList_cons]
          simpa only [String.append_assoc, String.utf8ByteSize_append, Nat.add_assoc] using later
      | some text =>
          -- The stretch before the character is copied, and a new one begins behind it.
          obtain ⟨byte, single, same⟩ := utf8EncodeChar_of_entity written
          have later := ih (done ++ pending ++ String.singleton c) ""
          rw [single, List.length_singleton] at length
          rw [String.append_empty, String.utf8ByteSize_append, ← length, String.empty_append,
            String.append_assoc] at later
          rw [single, List.singleton_append, partsFrom, same, escapeChars_cons,
            escapeChar_of_entity written, String.ofList_append, String.ofList_toList]
          exact later.entity.stretch rfl

theorem spells_parts (text : String) :
    Spells text (parts text.toUTF8) (String.ofList (escapeChars text.toList)) := by
  have whole := spells_partsFrom text.toList "" ""
  rwa [String.empty_append, String.ofList_toList, String.empty_append, String.empty_append] at whole

/-! ### What is written -/

theorem bytes_copy (before slice after : String) :
    Part.bytes (before ++ slice ++ after).toUTF8
      (.copy before.utf8ByteSize (before ++ slice).utf8ByteSize) = slice.toUTF8 := by
  have front : (before ++ slice ++ after).toByteArray =
      before.toByteArray ++ (slice.toByteArray ++ after.toByteArray) := by
    rw [String.toByteArray_append, String.toByteArray_append, ByteArray.append_assoc]
  rw [String.toUTF8_eq_toByteArray, String.toUTF8_eq_toByteArray, front, Part.bytes]
  calc (before.toByteArray ++ (slice.toByteArray ++ after.toByteArray)).extract
        before.utf8ByteSize (before ++ slice).utf8ByteSize
      = (before.toByteArray ++ (slice.toByteArray ++ after.toByteArray)).extract
          (before.toByteArray.size + 0) (before.toByteArray.size + slice.toByteArray.size) := by
        rw [String.utf8ByteSize_append, Nat.add_zero, String.size_toByteArray,
          String.size_toByteArray]
    _ = (slice.toByteArray ++ after.toByteArray).extract 0 slice.toByteArray.size :=
        ByteArray.extract_append_size_add
    _ = slice.toByteArray := ByteArray.extract_append_eq_left rfl

theorem Spells.foldl_bytes {source text : String} {written : List Part}
    (spelled : Spells source written text) (before : ByteArray) :
    written.foldl (fun bytes part => bytes ++ part.bytes source.toUTF8) before =
      before ++ text.toUTF8 := by
  induction spelled generalizing before with
  | nil => exact ByteArray.append_empty.symm
  | copy cut nonempty spelled ih =>
      subst cut
      rw [List.foldl_cons, ih, bytes_copy, ByteArray.append_assoc]
      exact congrArg (before ++ ·) String.toByteArray_append.symm
  | entity spelled ih =>
      rw [List.foldl_cons, ih, Part.bytes, ByteArray.append_assoc]
      exact congrArg (before ++ ·) String.toByteArray_append.symm

/-- A slice lies between two places of the source, the first in front of the second. -/
theorem Spells.copy_valid {source text : String} {written : List Part} {start stop : Nat}
    (spelled : Spells source written text) (copied : .copy start stop ∈ written) :
    start < stop ∧ String.Pos.Raw.IsValid source ⟨start⟩ ∧
      String.Pos.Raw.IsValid source ⟨stop⟩ := by
  induction spelled with
  | nil => cases copied
  | @copy before slice after rest later cut nonempty spelled ih =>
      rcases List.mem_cons.1 copied with here | behind
      · obtain ⟨rfl, rfl⟩ := Part.copy.inj here
        have size : slice.utf8ByteSize ≠ 0 :=
          fun empty => nonempty (String.utf8ByteSize_eq_zero_iff.1 empty)
        refine ⟨?_, String.Pos.Raw.isValid_iff_exists_append.2 ⟨before, slice ++ after, ?_, rfl⟩,
          String.Pos.Raw.isValid_iff_exists_append.2 ⟨before ++ slice, after, cut, rfl⟩⟩
        · rw [String.utf8ByteSize_append]
          omega
        · rw [cut, String.append_assoc]
      · exact ih behind
  | entity spelled ih =>
      rcases List.mem_cons.1 copied with here | behind
      · cases here
      · exact ih behind

theorem escapeBytes_toUTF8 (text : String) :
    escapeBytes text.toUTF8 = (String.ofList (escapeChars text.toList)).toUTF8 :=
  (spells_parts text).foldl_bytes ByteArray.empty |>.trans ByteArray.empty_append

theorem escape_eq (text : String) : escape text = String.ofList (escapeChars text.toList) := by
  let written := String.ofList (escapeChars text.toList)
  have read : String.fromUTF8? written.toUTF8 = some written := dif_pos written.isValidUTF8
  rw [escape, escapeBytes_toUTF8, read, Option.getD_some]

theorem toList_escape (text : String) : (escape text).toList = escapeChars text.toList := by
  rw [escape_eq, String.toList_ofList]

/-- Escaping writes each character by itself: the six special ones as their entities and all others
as they are. The bytes that the loop writes are those of a text, and every slice that it copies lies
within the source and begins and ends between two of its characters. So two texts can be escaped one
after the other. The filter escapes the output form of a value. -/
theorem escape_by_characters (text : String) :
    (escape text).toList = text.toList.flatMap escapeChar ∧
    (∀ entity ∈ entities, escapeChar entity.2 = entity.1.toList) ∧
    (∀ c : Char, c ∉ entities.map Prod.snd → escapeChar c = [c]) ∧
    (escape text).toUTF8 = escapeBytes text.toUTF8 ∧
    (∀ start stop, .copy start stop ∈ parts text.toUTF8 →
      start < stop ∧ String.Pos.Raw.IsValid text ⟨start⟩ ∧
        String.Pos.Raw.IsValid text ⟨stop⟩) ∧
    (∀ other, escape (text ++ other) = escape text ++ escape other) ∧
    ∀ value : Value, value.output = text →
      Filter.escape.apply value [] = .ok (.string (escape text)) := by
  refine ⟨toList_escape text, ?_, ?_, ?_, ?_, ?_, ?_⟩
  · intro entity listed
    exact escapeChar_of_entity (entity?_eq_some_iff.2 listed)
  · intro c unlisted
    apply escapeChar_of_plain
    rw [entity?_eq_none_iff]
    rintro entity listed rfl
    exact unlisted (List.mem_map_of_mem listed)
  · rw [escape_eq, escapeBytes_toUTF8]
  · intro start stop copied
    exact (spells_parts text).copy_valid copied
  · intro other
    rw [escape_eq, escape_eq, escape_eq, String.toList_append, escapeChars_append,
      String.ofList_append]
  · rintro value rfl
    rfl

/-- Slices beside characters of two and three bytes. -/
theorem escape_by_characters_accented :
    let text := "ü<é/€"
    parts text.toUTF8 = [.copy 0 2, .entity "&lt;", .copy 3 5, .entity "&#x2f;", .copy 6 9] ∧
    (String.Pos.Raw.IsValid text ⟨6⟩ ∧ String.Pos.Raw.IsValid text ⟨9⟩) ∧
    escapeChar '€' = ['€'] ∧
    Filter.escape.apply (.string text) [] = .ok (.string "ü&lt;é&#x2f;€") := by
  intro text
  have cut : parts text.toUTF8 =
      [.copy 0 2, .entity "&lt;", .copy 3 5, .entity "&#x2f;", .copy 6 9] := rfl
  have copied : .copy 6 9 ∈ parts text.toUTF8 := by
    rw [cut]
    decide
  have escaped : escape text = "ü&lt;é&#x2f;€" := by decide +kernel
  obtain ⟨-, -, plain, -, valid, -, filtered⟩ := escape_by_characters text
  refine ⟨cut, (valid 6 9 copied).2, plain '€' (by decide), ?_⟩
  rw [filtered (.string text) rfl, escaped]

end Stencil.Html
