import Mathlib.Data.List.Forall2
import Mathlib.Data.List.TakeWhile
import ScopeTokenizer.Pattern.Anchors
import ScopeTokenizer.Pattern.Source

/-!
# Captured text in patterns

The pattern for the end of a region may refer to what its begin captured, and that text may hold
anything, backslashes and digits above all. Here it is shown to be inert. Patterns are taken apart
into pieces, which every text has in one way only. All changes that are made to a pattern change
pieces into pieces: the ends of lines, the references and the anchors. The pieces of captured text
stand for its characters and are no anchors, so anchors can be switched off before or after captured
text is filled in.
-/

namespace ScopeTokenizer.Pattern

open Unicode

namespace Piece

/-- `Reads text pieces` says that `text` is written with `pieces`: a backslash makes one piece with
all the digits after it, or else with the next character, and any other character is a piece. -/
inductive Reads : List Char → List Piece → Prop where
  | nil : Reads [] []
  | literal {c : Char} {text : List Char} {pieces : List Piece} (plain : c ≠ '\\')
      (rest : Reads text pieces) : Reads (c :: text) (.literal c :: pieces)
  | escape {c : Char} {text : List Char} {pieces : List Piece} (plain : isAsciiDigit c = false)
      (rest : Reads text pieces) : Reads ('\\' :: c :: text) (.escape c :: pieces)
  | reference {digits text : List Char} {pieces : List Piece} (nonempty : digits ≠ [])
      (digits_only : ∀ c ∈ digits, isAsciiDigit c) (ends : ∀ c ∈ text.head?, isAsciiDigit c = false)
      (rest : Reads text pieces) : Reads ('\\' :: (digits ++ text)) (.reference digits :: pieces)
  | dangling : Reads ['\\'] [.dangling]

/-! ## Every text has its pieces -/

theorem readFrom_cons (run : List Char) (c : Char) (text : List Char) :
    readFrom run (c :: text) =
      if !run.isEmpty && isAsciiDigit c then readFrom (c :: run) text
      else ofRun run ++
        if c = '\\' then
          match text with
          | [] => [dangling]
          | d :: text => if isAsciiDigit d then readFrom [d] text else .escape d :: readFrom [] text
        else .literal c :: readFrom [] text := by
  cases text <;> rfl

theorem readFrom_eq_append {run text : List Char}
    (ends : ∀ c ∈ text.head?, isAsciiDigit c = false) :
    readFrom run text = ofRun run ++ readFrom [] text := by
  cases text with
  | nil => simp [readFrom, ofRun]
  | cons c text =>
    have plain : isAsciiDigit c = false := ends c rfl
    rw [readFrom_cons, readFrom_cons, plain]
    simp [ofRun]

theorem readFrom_digits {run digits text : List Char} (nonempty : run ≠ [])
    (digits_only : ∀ c ∈ digits, isAsciiDigit c)
    (ends : ∀ c ∈ text.head?, isAsciiDigit c = false) :
    readFrom run (digits ++ text) = .reference (run.reverse ++ digits) :: readFrom [] text := by
  induction digits generalizing run with
  | nil =>
    rw [List.nil_append, readFrom_eq_append ends]
    cases run with
    | nil => exact absurd rfl nonempty
    | cons d run => simp [ofRun]
  | cons c digits ih =>
    rw [List.forall_mem_cons] at digits_only
    have longer := ih (List.cons_ne_nil c run) digits_only.2
    cases run with
    | nil => exact absurd rfl nonempty
    | cons d run =>
      rw [List.cons_append, readFrom_cons, digits_only.1]
      simpa using longer

/-- The pieces that a text is written with are found by reading it. -/
theorem Reads.ofText_eq {text : List Char} {pieces : List Piece} (reads : Reads text pieces) :
    ofText text = pieces := by
  rw [ofText]
  induction reads with
  | nil => rfl
  | literal plain _ ih => simp [readFrom_cons, ofRun, plain, ih]
  | escape plain _ ih => simp [readFrom_cons, ofRun, plain, ih]
  | @reference digits text pieces nonempty digits_only ends _ ih =>
    cases digits with
    | nil => exact absurd rfl nonempty
    | cons d digits =>
      rw [List.forall_mem_cons] at digits_only
      have run := readFrom_digits (List.cons_ne_nil d []) digits_only.2 ends
      simp [readFrom_cons, ofRun, digits_only.1, run, ih]
  | dangling => rfl

theorem exists_reads (text : List Char) : ∃ pieces, Reads text pieces := by
  induction length : text.length using Nat.strong_induction_on generalizing text with
  | _ length shorter =>
    subst length
    cases text with
    | nil => exact ⟨[], .nil⟩
    | cons c text =>
      by_cases plain : c = '\\'
      · subst plain
        cases text with
        | nil => exact ⟨_, .dangling⟩
        | cons d text =>
          cases digit : isAsciiDigit d with
          | false =>
            have less : text.length < ('\\' :: d :: text).length :=
              Nat.lt_add_of_pos_right Nat.two_pos
            obtain ⟨pieces, reads⟩ := shorter text.length less text rfl
            exact ⟨_, .escape digit reads⟩
          | true =>
            -- The digits are as many as there are, so the text behind them begins with another
            -- character.
            let digits := (d :: text).takeWhile isAsciiDigit
            let rest := (d :: text).dropWhile isAsciiDigit
            have whole : digits ++ rest = d :: text := List.takeWhile_append_dropWhile
            have nonempty : digits ≠ [] := by simp [digits, digit]
            have less : rest.length ≤ text.length := by
              have := (List.dropWhile_suffix (l := text) isAsciiDigit).length_le
              simpa [rest, digit] using this
            obtain ⟨pieces, reads⟩ := shorter rest.length (by simp; omega) rest rfl
            have ends : ∀ c ∈ rest.head?, isAsciiDigit c = false := Text.head?_dropWhile_eq_false
            refine ⟨.reference digits :: pieces, ?_⟩
            rw [← whole]
            exact .reference nonempty (fun c member => List.mem_takeWhile_imp member) ends reads
      · obtain ⟨pieces, reads⟩ := shorter text.length (by simp) text rfl
        exact ⟨_, .literal plain reads⟩

theorem reads_ofText (text : List Char) : Reads text (ofText text) := by
  obtain ⟨pieces, reads⟩ := exists_reads text
  rw [reads.ofText_eq]
  exact reads

/-- A text is written with its pieces, and with no others. -/
theorem reads_iff (text : List Char) (pieces : List Piece) :
    Reads text pieces ↔ pieces = ofText text := by
  constructor
  · intro reads
    exact reads.ofText_eq.symm
  · intro same
    rw [same]
    exact reads_ofText text

theorem Reads.textOf_eq {text : List Char} {pieces : List Piece} (reads : Reads text pieces) :
    textOf pieces = text := by
  rw [← reads.ofText_eq, textOf_ofText]

/-! ## Changing pieces -/

/-- A character or an escape, which keeps apart from what stands before and after it. -/
inductive Firm : Piece → Prop where
  | literal {c : Char} (plain : c ≠ '\\') : Firm (.literal c)
  | escape {c : Char} (plain : isAsciiDigit c = false) : Firm (.escape c)

theorem Reads.firm_append {first second : List Piece} (firm : ∀ piece ∈ first, piece.Firm)
    (reads : Reads (textOf second) second) : Reads (textOf (first ++ second)) (first ++ second) := by
  induction first with
  | nil => exact reads
  | cons piece first ih =>
    rw [List.forall_mem_cons] at firm
    cases firm.1 with
    | literal plain => exact .literal plain (ih firm.2)
    | escape plain => exact .escape plain (ih firm.2)

/-- Pieces are still the pieces of their text when all references are replaced by firm pieces. -/
theorem Reads.fill {text : List Char} {pieces : List Piece} (reads : Reads text pieces)
    {fill : Piece → List Piece}
    (references : ∀ digits, ∀ piece ∈ fill (.reference digits), piece.Firm)
    (others : ∀ piece ∈ pieces, (∀ digits, piece ≠ .reference digits) → fill piece = [piece]) :
    Reads (textOf (pieces.flatMap fill)) (pieces.flatMap fill) := by
  induction reads with
  | nil => exact .nil
  | literal plain _ ih =>
    rw [List.forall_mem_cons] at others
    rw [List.flatMap_cons, others.1 (by simp)]
    exact .literal plain (ih others.2)
  | escape plain _ ih =>
    rw [List.forall_mem_cons] at others
    rw [List.flatMap_cons, others.1 (by simp)]
    exact .escape plain (ih others.2)
  | reference _ _ _ _ ih =>
    rw [List.forall_mem_cons] at others
    rw [List.flatMap_cons]
    exact firm_append (references _) (ih others.2)
  | dangling =>
    rw [List.forall_mem_cons] at others
    rw [List.flatMap_cons, others.1 (by simp)]
    exact .dangling

/-- Pieces are still the pieces of their text when only escapes are replaced, and by firm pieces
the first of which is written without a digit in front. -/
theorem Reads.rewrite {text : List Char} {pieces : List Piece} (reads : Reads text pieces)
    (change : Piece → List Piece) (literals : ∀ c, change (.literal c) = [.literal c])
    (references : ∀ digits, change (.reference digits) = [.reference digits])
    (dangling : change .dangling = [.dangling])
    (firm : ∀ c, isAsciiDigit c = false → ∀ piece ∈ change (.escape c), piece.Firm)
    (begins : ∀ c, ∃ d ∈ (textOf (change (.escape c))).head?, isAsciiDigit d = false) :
    Reads (textOf (pieces.flatMap change)) (pieces.flatMap change) := by
  induction reads with
  | nil => exact .nil
  | literal plain _ ih =>
    rw [List.flatMap_cons, literals]
    exact .literal plain ih
  | @escape c _ _ plain _ ih =>
    rw [List.flatMap_cons]
    exact firm_append (firm c plain) ih
  | @reference _ _ pieces nonempty digits_only ends rest ih =>
    -- What stands behind the digits still begins with no digit.
    have ends : ∀ c ∈ (textOf (pieces.flatMap change)).head?, isAsciiDigit c = false := by
      cases rest with
      | nil => simp
      | literal =>
        rw [List.flatMap_cons, literals]
        exact ends
      | @escape d =>
        obtain ⟨first, head, plain⟩ := begins d
        rw [List.flatMap_cons, textOf_append, List.head?_append, head, Option.some_or]
        intro c same
        rwa [← Option.some.inj same]
      | reference =>
        rw [List.flatMap_cons, references]
        exact ends
      | dangling =>
        rw [List.flatMap_cons, dangling]
        exact ends
    rw [List.flatMap_cons, references]
    exact .reference nonempty digits_only ends ih
  | dangling =>
    rw [List.flatMap_cons, dangling]
    exact .dangling

end Piece

/-! ## Ends of lines -/

namespace Source

open Piece

/-- The pieces that a piece of a grammar's pattern is rewritten to. -/
def rewritten : Piece → List Piece
  | .escape 'z' => Piece.ofText lineEnd
  | piece => [piece]

theorem flatMap_text_rewritten (piece : Piece) :
    (rewritten piece).flatMap Piece.text = pieceText piece := by
  unfold rewritten pieceText
  split
  · exact textOf_ofText lineEnd
  · simp

theorem ofText_lineEnd : Piece.ofText lineEnd =
    [.literal '$', .literal '(', .literal '?', .literal '!', .escape 'n', .literal ')',
      .literal '(', .literal '?', .literal '<', .literal '!', .escape 'n', .literal ')'] := by
  have text : lineEnd =
      ['$', '(', '?', '!', '\\', 'n', ')', '(', '?', '<', '!', '\\', 'n', ')'] := rfl
  rw [text]
  rfl

theorem firm_lineEnd : ∀ piece ∈ Piece.ofText lineEnd, piece.Firm := by
  rw [ofText_lineEnd]
  simp only [List.forall_mem_cons]
  refine ⟨.literal ?_, .literal ?_, .literal ?_, .literal ?_, .escape ?_, .literal ?_, .literal ?_,
    .literal ?_, .literal ?_, .literal ?_, .escape ?_, .literal ?_, nofun⟩
  all_goals decide

/-- The pieces of a pattern are those that the grammar gives, with the ends of lines replaced. -/
theorem ofText_text (text : String) :
    Piece.ofText (ofText text).text.toList = (Piece.ofText text.toList).flatMap rewritten := by
  have firm : ∀ c, isAsciiDigit c = false → ∀ piece ∈ rewritten (.escape c), piece.Firm := by
    intro c plain
    by_cases same : c = 'z'
    · rw [same]
      exact firm_lineEnd
    · simpa [rewritten, same] using Firm.escape plain
  have begins : ∀ c, ∃ d ∈ (textOf (rewritten (.escape c))).head?, isAsciiDigit d = false := by
    intro c
    by_cases same : c = 'z'
    · refine ⟨'$', ?_, by decide⟩
      rw [same, rewritten, ofText_lineEnd]
      rfl
    · refine ⟨'\\', ?_, by decide⟩
      simp [rewritten, same, Piece.text]
  have reads := (reads_ofText text.toList).rewrite rewritten (by simp [rewritten])
    (by simp [rewritten]) rfl firm begins
  have whole : (ofText text).text.toList =
      textOf ((Piece.ofText text.toList).flatMap rewritten) := by
    simp [ofText, textOf, List.flatMap_assoc, flatMap_text_rewritten]
  rw [whole, reads.ofText_eq]

/-! ## Captured text -/

/-- The characters that mean something in a pattern. The last three do so only between brackets,
between the bounds of a repetition, and where comments are allowed. -/
def operators : List Char :=
  ['\\', '^', '$', '.', '|', '?', '*', '+', '(', ')', '[', ']', '\x7b', '\x7d', '-', ',', '#']

/-- What a group captured on a line; nothing, if it took no part. -/
def capturedText (line : Line) (captures : Captures) (digits : List Char) : List Char :=
  match captures[groupNumber digits]? with
  | some (some (first, last)) => line.slice first last
  | _ => []

/-- The piece that stands for a character of captured text. -/
def spelling (c : Char) : Piece := if needsEscape c then .escape c else .literal c

/-- The pieces that a piece becomes when references are replaced by captured text. -/
def filled (line : Line) (captures : Captures) : Piece → List Piece
  | .reference digits => (capturedText line captures digits).map spelling
  | piece => [piece]

/-- A piece that matches one character: this character itself, if it has no other meaning, or else
a backslash with it, which has no other meaning before a character that is no letter or digit. -/
inductive Spells : Piece → Char → Prop where
  | literal {c : Char} (operator : c ∉ operators) (blank : isBlank c = false) :
      Spells (.literal c) c
  | escape {c : Char} (letter : isAsciiLetter c = false) (digit : isAsciiDigit c = false) :
      Spells (.escape c) c

/-- What is escaped are the operators and white space. -/
theorem needsEscape_iff (c : Char) : needsEscape c ↔ c ∈ operators ∨ isBlank c := by
  let escaped := ['-', '\\', '\x7b', '\x7d', '*', '+', '?', '|', '^', '$', '.', ',', '[', ']', '(',
    ')', '#']
  have listed : needsEscape c = (escaped.contains c || isBlank c) := rfl
  have same : escaped.Perm operators := by decide
  rw [listed, Bool.or_eq_true, List.contains_iff_mem, same.mem_iff]

theorem toNat_of_isBlank {c : Char} (blank : isBlank c) : c.toNat ≤ 32 ∨ 128 ≤ c.toNat := by
  cases ascii : isAscii c with
  | true =>
    simp only [isBlank, ascii, if_true, Bool.or_eq_true, beq_iff_eq, Bool.and_eq_true,
      decide_eq_true_eq, Char.le_def, UInt32.le_iff_toNat_le, Char.toNat_val] at blank
    rcases blank with rfl | blank
    · decide
    · have : '\x0d'.toNat = 13 := rfl
      omega
  | false =>
    simp only [isAscii, decide_eq_false_iff_not] at ascii
    omega

/-- Letters and digits are not escaped. -/
theorem letter_or_digit_of_needsEscape {c : Char} (escapes : needsEscape c) :
    (isAsciiLetter c || isAsciiDigit c) = false := by
  rcases (needsEscape_iff c).mp escapes with operator | blank
  · have none : operators.all fun c => !(isAsciiLetter c || isAsciiDigit c) := by decide
    simpa using List.all_eq_true.mp none c operator
  · rw [← Bool.not_eq_true]
    intro known
    have low := toNat_of_letter_or_digit known
    have high := toNat_of_isBlank blank
    omega

theorem spells_spelling (c : Char) : Spells (spelling c) c := by
  cases escapes : needsEscape c with
  | true =>
    have other := letter_or_digit_of_needsEscape escapes
    rw [Bool.or_eq_false_iff] at other
    rw [spelling, if_pos escapes]
    exact .escape other.1 other.2
  | false =>
    have plain := mt (needsEscape_iff c).mpr (Bool.not_eq_true _ ▸ escapes)
    rw [not_or, Bool.not_eq_true] at plain
    rw [spelling, escapes]
    exact .literal plain.1 plain.2

theorem firm_spelling (c : Char) : (spelling c).Firm := by
  have spells := spells_spelling c
  generalize spelling c = piece at spells
  cases spells with
  | literal operator blank =>
    refine .literal ?_
    rintro rfl
    exact operator (by decide)
  | escape letter digit => exact .escape digit

theorem escapeText_eq (text : List Char) : escapeText text = textOf (text.map spelling) := by
  rw [escapeText, textOf, List.flatMap_map]
  congr 1
  funext c
  unfold spelling
  split <;> rfl

theorem flatMap_text_filled (line : Line) (captures : Captures) (piece : Piece) :
    (filled line captures piece).flatMap Piece.text = referencedText line captures piece := by
  cases piece with
  | reference digits =>
    have escaped := escapeText_eq (capturedText line captures digits)
    rw [textOf] at escaped
    rw [filled, ← escaped]
    simp only [capturedText, referencedText]
    cases captures[groupNumber digits]? with
    | none => rfl
    | some span => cases span <;> rfl
  | literal | escape | dangling => simp [filled, referencedText]

/-- What a pattern becomes when captured text is filled in: the references are replaced by pieces
that stand for the text, and all other pieces stay as they are. -/
theorem reads_resolveReferences (source : Source) (line : Line) (captures : Captures) :
    Reads (source.resolveReferences line captures).toList
      ((Piece.ofText source.text.toList).flatMap (filled line captures)) := by
  have firm : ∀ digits, ∀ piece ∈ filled line captures (.reference digits), piece.Firm := by
    intro digits piece member
    obtain ⟨c, _, rfl⟩ := List.mem_map.mp member
    exact firm_spelling c
  have others : ∀ piece ∈ Piece.ofText source.text.toList,
      (∀ digits, piece ≠ .reference digits) → filled line captures piece = [piece] := by
    intro piece _ other
    cases piece with
    | reference digits => exact absurd rfl (other digits)
    | literal | escape | dangling => rfl
  have reads := (reads_ofText source.text.toList).fill firm others
  have whole : (source.resolveReferences line captures).toList =
      textOf ((Piece.ofText source.text.toList).flatMap (filled line captures)) := by
    simp [resolveReferences, textOf, List.flatMap_assoc, flatMap_text_filled]
  rw [whole]
  exact reads

end Source

/-! ## Anchors -/

namespace Anchors

open Piece

theorem resolvePiece_of_ne (anchors : Anchors) {piece : Piece} (start : piece ≠ .escape 'A')
    (here : piece ≠ .escape 'G') : anchors.resolvePiece piece = piece := by
  unfold resolvePiece
  split
  · exact absurd rfl start
  · exact absurd rfl here
  · rfl

theorem resolvePiece_escape (anchors : Anchors) (c : Char) :
    anchors.resolvePiece (.escape c) = .escape c ∨
      anchors.resolvePiece (.escape c) = .literal placeholder := by
  unfold resolvePiece
  split
  · cases anchors.start <;> simp_all
  · cases anchors.here <;> simp_all
  · exact .inl rfl

theorem mayOccur_append (first second : List Char) (occurs : mayOccur second) :
    mayOccur (first ++ second) := by
  induction first with
  | nil => exact occurs
  | cons c first ih => simp [mayOccur, ih]

/-- The search for a backslash before an `A` or a `G` overlooks no anchor. -/
theorem mayOccur_of_reads {text : List Char} {pieces : List Piece} (reads : Reads text pieces)
    {c : Char} (member : .escape c ∈ pieces) (anchor : c = 'A' ∨ c = 'G') : mayOccur text := by
  induction reads with
  | nil => simp at member
  | literal _ _ ih =>
    have later := ih (by simpa using member)
    simp [mayOccur, later]
  | escape _ _ ih =>
    rcases List.mem_cons.mp member with same | member
    · cases same
      simp [mayOccur, anchor]
    · simp [mayOccur, ih member]
  | reference _ _ _ _ ih =>
    have later := ih (by simpa using member)
    simp [mayOccur, mayOccur_append _ _ later]
  | dangling => simp at member

/-- What switching anchors off does to a pattern: the anchors that may not match are replaced, and
all other pieces stay as they are. -/
theorem reads_resolve (anchors : Anchors) (pattern : String) :
    Reads (anchors.resolve pattern).toList
      ((Piece.ofText pattern.toList).map anchors.resolvePiece) := by
  have reads := reads_ofText pattern.toList
  by_cases skipped : anchors = both ∨ mayOccur pattern.toList = false
  · have unchanged : ∀ piece ∈ Piece.ofText pattern.toList, anchors.resolvePiece piece = piece := by
      intro piece member
      rcases skipped with rfl | absent
      · unfold resolvePiece
        split <;> rfl
      · apply resolvePiece_of_ne
        · rintro rfl
          simp [mayOccur_of_reads reads member] at absent
        · rintro rfl
          simp [mayOccur_of_reads reads member] at absent
    rw [resolve, if_pos (by simpa using skipped), List.map_congr_left unchanged, List.map_id']
    exact reads
  · rw [resolve, if_neg (by simpa using skipped), String.toList_ofList, resolvePieces]
    have firm : ∀ c, isAsciiDigit c = false →
        ∀ piece ∈ [anchors.resolvePiece (.escape c)], piece.Firm := by
      intro c plain piece member
      rw [List.mem_singleton.mp member]
      rcases anchors.resolvePiece_escape c with same | placed
      · rw [same]
        exact .escape plain
      · rw [placed]
        exact .literal (by decide)
    have begins : ∀ c, ∃ d ∈ (textOf [anchors.resolvePiece (.escape c)]).head?,
        isAsciiDigit d = false := by
      intro c
      rcases anchors.resolvePiece_escape c with same | placed
      · rw [same]
        exact ⟨'\\', rfl, by decide⟩
      · rw [placed]
        exact ⟨placeholder, rfl, by decide⟩
    have switched := reads.rewrite (fun piece => [anchors.resolvePiece piece])
      (fun _ => rfl) (fun _ => rfl) rfl firm begins
    rw [List.map_eq_flatMap]
    exact switched

end Anchors

namespace Source

open Piece

/-- No piece of captured text is an anchor. -/
theorem resolvePiece_spelling (anchors : Anchors) (c : Char) :
    anchors.resolvePiece (spelling c) = spelling c := by
  have spells := spells_spelling c
  generalize spelling c = piece at spells
  apply anchors.resolvePiece_of_ne
  · rintro rfl
    cases spells with
    | escape letter => cases letter
  · rintro rfl
    cases spells with
    | escape letter => cases letter

theorem map_resolvePiece_filled (anchors : Anchors) (line : Line) (captures : Captures)
    (piece : Piece) : (filled line captures piece).map anchors.resolvePiece =
      filled line captures (anchors.resolvePiece piece) := by
  cases piece with
  | reference digits =>
    have kept : anchors.resolvePiece (.reference digits) = .reference digits := rfl
    rw [kept, filled, List.map_map]
    apply List.map_congr_left
    intro c _
    exact resolvePiece_spelling anchors c
  | literal | dangling => rfl
  | escape c =>
    rcases anchors.resolvePiece_escape c with same | placed
    · simp [filled, same]
    · simp [filled, placed]

/-- Captured text is inert in a pattern. The pieces of a grammar's pattern are those that were
written, with the ends of lines replaced. When captured text is filled in, the pieces stay what
they are and in their order, except that in place of each reference there are pieces that spell
the captured text, character by character. Anchors can be switched off before or after that, and
either way just the anchors of the pattern are. -/
theorem captured_text_inert (text : String) (line : Line) (captures : Captures)
    (anchors : Anchors) :
    let source := ofText text
    let resolved := source.resolveReferences line captures
    ∃ written pieces : List Piece,
      (∀ others, Reads text.toList others ↔ others = written) ∧
      (∀ others, Reads source.text.toList others ↔ others = pieces) ∧
      pieces = written.flatMap rewritten ∧
      (∀ others, Reads resolved.toList others ↔ others = pieces.flatMap (filled line captures)) ∧
      (∀ digits, List.Forall₂ Spells (filled line captures (.reference digits))
        (capturedText line captures digits)) ∧
      anchors.resolve resolved =
        { source with text := anchors.resolve source.text }.resolveReferences line captures ∧
      ∀ others, Reads (anchors.resolve resolved).toList others ↔
        others = (pieces.map anchors.resolvePiece).flatMap (filled line captures) := by
  intro source resolved
  have filled_in := reads_resolveReferences source line captures
  have switched := anchors.reads_resolve resolved
  have first := anchors.reads_resolve source.text
  have second := reads_resolveReferences
    { source with text := anchors.resolve source.text } line captures
  -- Both ways lead to the same pieces, and so to the same text.
  have same : (Piece.ofText resolved.toList).map anchors.resolvePiece =
      ((Piece.ofText source.text.toList).map anchors.resolvePiece).flatMap
        (filled line captures) := by
    rw [filled_in.ofText_eq, List.map_flatMap, List.flatMap_map]
    simp only [map_resolvePiece_filled]
  rw [same] at switched
  rw [first.ofText_eq] at second
  refine ⟨Piece.ofText text.toList, Piece.ofText source.text.toList, reads_iff _, reads_iff _,
    ofText_text text, ?_, ?_, ?_, ?_⟩
  · intro others
    rw [reads_iff, filled_in.ofText_eq]
  · intro digits
    rw [filled, List.forall₂_map_left_iff, List.forall₂_same]
    intro c _
    exact spells_spelling c
  · rw [← String.toList_inj, ← switched.textOf_eq, ← second.textOf_eq]
  · intro others
    rw [reads_iff, switched.ofText_eq]

end Source

end ScopeTokenizer.Pattern
