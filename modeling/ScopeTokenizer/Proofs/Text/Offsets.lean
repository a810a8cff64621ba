import Mathlib.Data.List.Basic
import ScopeTokenizer.Text.Encoded
import ScopeTokenizer.Text.Line

/-!
# Offsets in lines

A line counts characters, others count bytes. The offset of a character is the length of what is
encoded before it, with or without a table of offsets. From this follows that the two ways of
counting lead back to each other, that a slice has exactly the bytes between two offsets, and that
cutting a line off leaves the offsets before the cut alone.
-/

namespace ScopeTokenizer.Line

open Text

/-! ## Encoded texts -/

theorem utf8ByteSize_ofList (text : List Char) :
    (String.ofList text).utf8ByteSize = encodedLength text := by
  induction text with
  | nil => rfl
  | cons c text ih =>
    rw [← List.singleton_append, String.ofList_append, String.utf8ByteSize_append, ih,
      encodedLength_append, ← String.singleton_eq_ofList, String.utf8ByteSize_singleton]
    rfl

theorem isAscii_cons {c : Char} {text : List Char} (ascii : isAscii (c :: text) = true) :
    c.utf8Size = 1 ∧ isAscii text = true := by
  simp only [isAscii, List.all_cons, Bool.and_eq_true, decide_eq_true_eq] at ascii
  exact ⟨Char.utf8Size_eq_one_iff.mpr (UInt32.le_iff_toNat_le.mpr (Nat.le_of_lt_succ ascii.1)),
    ascii.2⟩

theorem encodedLength_of_isAscii {text : List Char} (ascii : isAscii text = true) :
    encodedLength text = text.length := by
  induction text with
  | nil => rfl
  | cons c text ih =>
    obtain ⟨single, ascii⟩ := isAscii_cons ascii
    rw [encodedLength, ih ascii, single, List.length_cons, Nat.add_comm]

theorem isAscii_take {text : List Char} (ascii : isAscii text = true) (count : Nat) :
    isAscii (text.take count) = true :=
  List.all_eq_true.mpr fun c mem => List.all_eq_true.mp ascii c (List.mem_of_mem_take mem)

/-- A longer beginning is a shorter one, followed by what lies between their ends. -/
theorem take_eq_append (text : List Char) {first last : Nat} (before : first ≤ last) :
    text.take last = text.take first ++ (text.take last).drop first := by
  have front : (text.take last).take first = text.take first := by
    rw [List.take_take, Nat.min_eq_left before]
  rw [← front, List.take_append_drop]

theorem encodedLength_take_lt {text : List Char} {first last : Nat} (before : first < last)
    (within : last ≤ text.length) :
    encodedLength (text.take first) < encodedLength (text.take last) := by
  have between := length_le_encodedLength ((text.take last).drop first)
  rw [List.length_drop, List.length_take] at between
  rw [take_eq_append text (Nat.le_of_lt before), encodedLength_append]
  omega

theorem encodedLength_take_le (text : List Char) {first last : Nat} (before : first ≤ last) :
    encodedLength (text.take first) ≤ encodedLength (text.take last) := by
  rw [take_eq_append text before, encodedLength_append]
  exact Nat.le_add_right _ _

/-- The bytes between the ends of two beginnings of a text. -/
theorem extract_toByteArray (text : List Char) {first last : Nat} (before : first ≤ last) :
    (String.ofList text).toByteArray.extract (encodedLength (text.take first))
        (encodedLength (text.take last)) =
      (String.ofList ((text.take last).drop first)).toByteArray := by
  have size (part : List Char) : (String.ofList part).toByteArray.size = encodedLength part :=
    utf8ByteSize_ofList part
  have parts : text = text.take first ++ ((text.take last).drop first ++ text.drop last) := by
    rw [← List.append_assoc, ← take_eq_append text before, List.take_append_drop]
  have middle : encodedLength (text.take last) =
      encodedLength (text.take first) + encodedLength ((text.take last).drop first) := by
    rw [← encodedLength_append, ← take_eq_append text before]
  conv_lhs =>
    rw [middle, ← Nat.add_zero (encodedLength (text.take first)), Nat.add_assoc, Nat.zero_add,
      parts, String.ofList_append, String.toByteArray_append, ← parts]
  rw [ByteArray.extract_append_size_add' (size _).symm, String.ofList_append,
    String.toByteArray_append, ByteArray.extract_append_eq_left (size _).symm]

/-! ## Tables of offsets -/

/-- The line of a text, with a table of offsets whatever its characters are. -/
def tabulated (text : List Char) : Line where
  chars := text.toArray
  starts := (startsFrom 0 text).toArray

theorem ofChars_of_isAscii {text : List Char} (ascii : isAscii text = true) :
    ofChars text = ⟨text.toArray, #[]⟩ := by
  rw [ofChars, if_pos ascii]

theorem ofChars_of_not_isAscii {text : List Char} (other : isAscii text = false) :
    ofChars text = tabulated text := by
  rw [ofChars, if_neg (by rw [other]; decide), tabulated]

theorem getD_startsFrom (offset : Nat) {text : List Char} {position : Nat}
    (within : position ≤ text.length) :
    (startsFrom offset text).getD position 0 = offset + encodedLength (text.take position) := by
  induction text generalizing offset position with
  | nil =>
    obtain rfl := Nat.le_zero.mp within
    rfl
  | cons c text ih =>
    cases position with
    | zero => rfl
    | succ position =>
      rw [startsFrom, List.getD_cons_succ, ih _ (Nat.le_of_succ_le_succ within),
        List.take_succ_cons, encodedLength, Nat.add_assoc]

theorem le_of_mem_startsFrom {offset start : Nat} {text : List Char}
    (mem : start ∈ startsFrom offset text) : offset ≤ start := by
  induction text generalizing offset with
  | nil => exact Nat.le_of_eq (List.mem_singleton.mp mem).symm
  | cons c text ih =>
    rcases List.mem_cons.mp mem with rfl | mem
    · exact Nat.le_refl _
    · exact Nat.le_trans (Nat.le_add_right _ _) (ih mem)

theorem countP_startsFrom_of_le {offset sought : Nat} (before : sought ≤ offset)
    (text : List Char) : (startsFrom offset text).countP (· < sought) = 0 := by
  refine List.countP_eq_zero.mpr fun start mem below => ?_
  have := le_of_mem_startsFrom mem
  have : start < sought := of_decide_eq_true below
  omega

/-- The characters that begin before an offset are those up to a position exactly if this position
does not begin before it. -/
theorem countP_startsFrom_le_iff (offset sought : Nat) {text : List Char} {position : Nat}
    (within : position ≤ text.length) :
    (startsFrom offset text).countP (· < sought) ≤ position ↔
      sought ≤ offset + encodedLength (text.take position) := by
  induction text generalizing offset position with
  | nil =>
    obtain rfl := Nat.le_zero.mp within
    rw [startsFrom, List.take_nil, encodedLength, List.countP_singleton]
    split <;> simp_all
  | cons c text ih =>
    by_cases before : offset < sought
    · rw [startsFrom, List.countP_cons_of_pos (by simpa using before)]
      cases position with
      | zero =>
        rw [List.take_zero, encodedLength]
        omega
      | succ position =>
        have rest := ih (offset + c.utf8Size) (Nat.le_of_succ_le_succ within)
        rw [List.take_succ_cons, encodedLength, ← Nat.add_assoc, ← rest]
        omega
    · rw [countP_startsFrom_of_le (Nat.le_of_not_lt before)]
      omega

theorem countP_startsFrom_of_isAscii (offset sought : Nat) {text : List Char}
    (ascii : isAscii text = true) :
    (startsFrom offset text).countP (· < sought) = min (sought - offset) (text.length + 1) := by
  induction text generalizing offset with
  | nil =>
    rw [startsFrom, List.countP_singleton, List.length_nil]
    by_cases before : offset < sought
    · rw [if_pos (decide_eq_true before)]
      omega
    · rw [if_neg (by simpa using before)]
      omega
  | cons c text ih =>
    obtain ⟨single, ascii⟩ := isAscii_cons ascii
    rw [startsFrom, List.countP_cons, ih _ ascii, single, List.length_cons]
    by_cases before : offset < sought
    · rw [if_pos (decide_eq_true before)]
      omega
    · rw [if_neg (by simpa using before)]
      omega

/-! ## Offsets of characters -/

section Offsets

variable (text : List Char)

theorem length_tabulated : (tabulated text).length = text.length := by
  simp [tabulated, length]

theorem slice_tabulated (first last : Nat) :
    (tabulated text).slice first last = (ofChars text).slice first last :=
  rfl

theorem slice_eq (first last : Nat) :
    (ofChars text).slice first last = (text.take last).drop first := by
  rw [slice_ofChars, List.drop_take]

theorem starts_tabulated : (tabulated text).starts.isEmpty = false := by
  cases text <;> rfl

/-- The offset of a character is the length of what is encoded before it. -/
theorem byteOffset_tabulated (position : Nat) :
    (tabulated text).byteOffset position = encodedLength (text.take position) := by
  rw [byteOffset, if_neg (by rw [starts_tabulated]; decide), length_tabulated]
  calc (startsFrom 0 text).toArray.getD (min position text.length) 0
    _ = (startsFrom 0 text).getD (min position text.length) 0 := by
      rw [Array.getD_eq_getD_getElem?, List.getElem?_toArray, List.getD_eq_getElem?_getD]
    _ = encodedLength (text.take (min position text.length)) := by
      rw [getD_startsFrom 0 (Nat.min_le_right _ _), Nat.zero_add]
    _ = encodedLength (text.take position) := by rw [← List.take_eq_take_min]

/-- So it is without a table. -/
theorem byteOffset_ofChars (position : Nat) :
    (ofChars text).byteOffset position = encodedLength (text.take position) := by
  cases ascii : isAscii text with
  | true =>
    rw [encodedLength_of_isAscii (isAscii_take ascii position), List.length_take,
      ofChars_of_isAscii ascii]
    rfl
  | false => rw [ofChars_of_not_isAscii ascii, byteOffset_tabulated]

theorem charOffset_tabulated (offset : Nat) :
    (tabulated text).charOffset offset = (startsFrom 0 text).countP (· < offset) := by
  rw [charOffset, if_neg (by rw [starts_tabulated]; decide), tabulated]

theorem charOffset_of_isAscii (ascii : isAscii text = true) (offset : Nat) :
    (ofChars text).charOffset offset = offset := by
  rw [ofChars_of_isAscii ascii]
  rfl

/-- In a text of single bytes each offset up to one past the end is found at its own place. -/
theorem charOffset_tabulated_of_isAscii (ascii : isAscii text = true) (offset : Nat) :
    (tabulated text).charOffset offset = min offset (text.length + 1) := by
  rw [charOffset_tabulated, countP_startsFrom_of_isAscii 0 offset ascii, Nat.sub_zero]

theorem charOffset_tabulated_eq (offset : Nat) (near : offset ≤ text.length + 1) :
    (tabulated text).charOffset offset = (ofChars text).charOffset offset := by
  cases ascii : isAscii text with
  | true =>
    rw [charOffset_tabulated_of_isAscii text ascii, charOffset_of_isAscii text ascii,
      Nat.min_eq_left near]
  | false => rw [ofChars_of_not_isAscii ascii]

/-- A character begins at an offset or after it exactly if the one that is found does not come
later. -/
theorem charOffset_le_iff {position : Nat} (within : position ≤ text.length) (offset : Nat) :
    (ofChars text).charOffset offset ≤ position ↔ offset ≤ (ofChars text).byteOffset position := by
  rw [byteOffset_ofChars]
  cases ascii : isAscii text with
  | true =>
    rw [charOffset_of_isAscii text ascii, encodedLength_of_isAscii (isAscii_take ascii position),
      List.length_take, Nat.min_eq_left within]
  | false =>
    rw [ofChars_of_not_isAscii ascii, charOffset_tabulated, countP_startsFrom_le_iff 0 offset within,
      Nat.zero_add]

/-- Counting in bytes and back again leads to the same place. -/
theorem charOffset_byteOffset (position : Nat) :
    (ofChars text).charOffset ((ofChars text).byteOffset position) = min position text.length := by
  have same : (ofChars text).byteOffset position =
      (ofChars text).byteOffset (min position text.length) := by
    rw [byteOffset_ofChars, byteOffset_ofChars, ← List.take_eq_take_min]
  rw [same]
  have within : min position text.length ≤ text.length := Nat.min_le_right _ _
  apply Nat.le_antisymm
  · exact (charOffset_le_iff text within _).mpr (Nat.le_refl _)
  · -- An earlier character would begin earlier.
    refine Nat.le_of_not_lt fun earlier => ?_
    have found := (charOffset_le_iff text (Nat.le_trans (Nat.le_of_lt earlier) within) _).mp
      (Nat.le_refl _)
    have before := encodedLength_take_lt earlier within
    rw [← byteOffset_ofChars, ← byteOffset_ofChars] at before
    exact Nat.not_lt.mpr found before

theorem byteOffset_of_length_le {position : Nat} (beyond : text.length ≤ position) :
    (ofChars text).byteOffset position = encodedLength text := by
  rw [byteOffset_ofChars, List.take_of_length_le beyond]

theorem byteOffset_le (first last : Nat) (before : first ≤ last) :
    (ofChars text).byteOffset first ≤ (ofChars text).byteOffset last := by
  rw [byteOffset_ofChars, byteOffset_ofChars]
  exact encodedLength_take_le text before

/-- A character never begins within another one. -/
theorem isValid_byteOffset (position : Nat) :
    String.Pos.Raw.IsValid (String.ofList text) ⟨(ofChars text).byteOffset position⟩ := by
  rw [String.Pos.Raw.isValid_iff_exists_take_toList, String.toList_ofList]
  exact ⟨position, (byteOffset_ofChars text position).trans (utf8ByteSize_ofList _).symm⟩

theorem slice_of_le {first last : Nat} (reversed : last ≤ first) :
    (ofChars text).slice first last = [] := by
  rw [slice_ofChars, Nat.sub_eq_zero_of_le reversed, List.take_zero]

/-- The bytes of a slice are those from the first offset up to the last one. -/
theorem toByteArray_slice (first last : Nat) :
    (String.ofList ((ofChars text).slice first last)).toByteArray =
      (String.ofList text).toByteArray.extract ((ofChars text).byteOffset first)
        (max ((ofChars text).byteOffset last) ((ofChars text).byteOffset first)) := by
  rcases Nat.le_total first last with before | reversed
  · rw [Nat.max_eq_left (byteOffset_le text first last before), slice_eq, byteOffset_ofChars,
      byteOffset_ofChars, extract_toByteArray text before]
  · rw [Nat.max_eq_right (byteOffset_le text last first reversed), slice_of_le text reversed,
      ByteArray.extract_same]
    rfl

/-- Cutting a line off leaves the offsets up to the cut as they are, even if no table is left. -/
theorem byteOffset_truncate {position count : Nat} (within : position ≤ count) :
    ((ofChars text).truncate count).byteOffset position = (ofChars text).byteOffset position := by
  rw [truncate, byteOffset_ofChars, byteOffset_ofChars, slice_eq, List.drop_zero, List.take_take,
    Nat.min_eq_left within]

/-- The offsets of a line are exact, for every text. The offset of a character is the length of what
is encoded before it, and that of the end from there on; the offsets of different characters differ.
An offset leads back to its character, and any other one to the next character. A slice has the
characters from one position up to another one, which are those of the bytes in between, and both
bounds lie between characters. A line that is cut off has the same offsets up to the cut. A table
of offsets makes no difference to any of this: a line that has none finds the same character for
each offset up to one past the end. Offsets further on are none of the text; there the two differ. -/
theorem offsets_exact :
    (∀ position, (ofChars text).byteOffset position = encodedLength (text.take position)) ∧
    let line := ofChars text
    let table := tabulated text
    let bytes := (String.ofList text).toByteArray
    (∀ first last, first < last → last ≤ text.length →
      line.byteOffset first < line.byteOffset last) ∧
    (∀ position, text.length ≤ position → line.byteOffset position = bytes.size) ∧
    (∀ position, line.charOffset (line.byteOffset position) = min position text.length) ∧
    (∀ position offset, position ≤ text.length →
      (line.charOffset offset ≤ position ↔ offset ≤ line.byteOffset position)) ∧
    (∀ first last,
      let start := line.byteOffset first
      let stop := max (line.byteOffset last) start
      line.slice first last = (text.take last).drop first ∧
      (last ≤ first → line.slice first last = []) ∧
      String.Pos.Raw.IsValid (String.ofList text) ⟨start⟩ ∧
      String.Pos.Raw.IsValid (String.ofList text) ⟨stop⟩ ∧
      (String.ofList (line.slice first last)).toByteArray = bytes.extract start stop) ∧
    (∀ count position, position ≤ count →
      (line.truncate count).byteOffset position = line.byteOffset position) ∧
    (table.length = line.length ∧
      (∀ position, table.byteOffset position = line.byteOffset position) ∧
      (∀ first last, table.slice first last = line.slice first last) ∧
      (∀ count, table.truncate count = line.truncate count) ∧
      (isAscii text = false → table = line) ∧
      (∀ offset, offset ≤ text.length + 1 → table.charOffset offset = line.charOffset offset) ∧
      (isAscii text = true → ∀ offset, text.length + 1 < offset →
        table.charOffset offset = text.length + 1 ∧ line.charOffset offset = offset)) := by
  refine ⟨byteOffset_ofChars text, ?_⟩
  intro line table bytes
  refine ⟨?_, ?_, charOffset_byteOffset text,
    fun _ offset within => charOffset_le_iff text within offset, ?_,
    fun _ _ within => byteOffset_truncate text within, ?_, ?_, slice_tabulated text,
    fun _ => rfl, fun other => (ofChars_of_not_isAscii other).symm,
    charOffset_tabulated_eq text, ?_⟩
  · intro first last before within
    rw [byteOffset_ofChars, byteOffset_ofChars]
    exact encodedLength_take_lt before within
  · intro position beyond
    rw [byteOffset_of_length_le text beyond]
    exact (utf8ByteSize_ofList text).symm
  · intro first last start stop
    refine ⟨slice_eq text first last, slice_of_le text, isValid_byteOffset text first, ?_,
      toByteArray_slice text first last⟩
    rcases Nat.le_total (line.byteOffset last) start with before | after
    · rw [show stop = start from Nat.max_eq_right before]
      exact isValid_byteOffset text first
    · rw [show stop = line.byteOffset last from Nat.max_eq_left after]
      exact isValid_byteOffset text last
  · rw [length_tabulated, length_ofChars]
  · intro position
    rw [byteOffset_tabulated, byteOffset_ofChars]
  · intro ascii offset beyond
    refine ⟨?_, charOffset_of_isAscii text ascii offset⟩
    rw [charOffset_tabulated_of_isAscii text ascii, Nat.min_eq_right (Nat.le_of_lt beyond)]

end Offsets

/-- Without a table, an offset that lies further beyond the end is its own position. -/
theorem charOffset_beyond_end :
    (ofChars ['a', 'b']).charOffset 5 = 5 ∧ (tabulated ['a', 'b']).charOffset 5 = 3 := by
  decide

end ScopeTokenizer.Line
