import Mathlib.Data.List.Basic
import Mathlib.Data.List.TakeWhile
import ScopeTokenizer.Scope.Template

/-!
# Filling in captured text

The name of a scope is cut at the first dollar sign that a reference to a capture follows, and then
on behind this reference. So it consists of references and of characters outside of them, in one way
only, and whatever was captured: text that is filled in for a reference is not read again. Whether
there is any reference is found out in advance, by looking behind every dollar sign. This comes to
the same, since the first one that a reference follows is never passed over.
-/

namespace ScopeTokenizer.Scope

open Pattern Text

/-- What ends a braced reference that asks for a change of case. -/
def CaseChange.ending : CaseChange → List Char
  | .lower => ":/downcase\x7d".toList
  | .upper => ":/upcase\x7d".toList

/-- A text in the case that is asked for. -/
def recase : Option CaseChange → List Char → List Char
  | none, text => text
  | some .lower, text => lowerCase text
  | some .upper, text => upperCase text

namespace Reference

/-- `Numeral digits rest` says that `digits` are all the digits in front of `rest`, and that a
machine word holds their number. -/
structure Numeral (digits rest : List Char) : Prop where
  nonempty : digits ≠ []
  only : ∀ c ∈ digits, Unicode.isAsciiDigit c
  ends : ∀ c ∈ rest.head?, Unicode.isAsciiDigit c = false
  fits : Source.groupNumber digits < UInt64.size

/-- `Stands reference written rest` says that `written` is how `reference` is written behind a
dollar sign, and that `rest` stands after it. -/
inductive Stands : Reference → List Char → List Char → Prop where
  | plain {digits rest : List Char} (numeral : Numeral digits rest) :
      Stands ⟨Source.groupNumber digits, none⟩ digits rest
  | braced {digits rest : List Char} {change : CaseChange}
      (numeral : Numeral digits (change.ending ++ rest)) :
      Stands ⟨Source.groupNumber digits, some change⟩ ('\x7b' :: (digits ++ change.ending)) rest

/-- Whether the group that a reference names took part in the match. -/
def Captured (captures : Captures) (reference : Reference) : Prop :=
  ∃ span, captures[reference.group]? = some (some span)

/-! ## Reading one reference -/

variable {text rest digits written : List Char} {reference : Reference} {number : Nat}
  {change : CaseChange}

theorem number?_of_numeral (numeral : Numeral digits rest) :
    number? (digits ++ rest) = some (Source.groupNumber digits, rest) := by
  have fits : ¬ limit ≤ Source.groupNumber digits := Nat.not_le.mpr numeral.fits
  rw [number?, takeWhile_append_eq numeral.only numeral.ends,
    dropWhile_append_eq numeral.only numeral.ends]
  simp [numeral.nonempty, fits]

theorem numeral_of_number? (found : number? text = some (number, rest)) :
    ∃ digits, text = digits ++ rest ∧ Numeral digits rest ∧ Source.groupNumber digits = number := by
  rw [number?] at found
  split at found
  · cases found
  · next readable =>
    cases found
    rw [not_or, Nat.not_le] at readable
    have numeral : Numeral (text.takeWhile Unicode.isAsciiDigit)
        (text.dropWhile Unicode.isAsciiDigit) :=
      ⟨readable.1, fun _ member => List.mem_takeWhile_imp member, head?_dropWhile_eq_false,
        readable.2⟩
    exact ⟨_, List.takeWhile_append_dropWhile.symm, numeral, rfl⟩

theorem ending?_append (change : CaseChange) (rest : List Char) :
    ending? (change.ending ++ rest) endings = some (change, rest) := by
  cases change <;> rfl

theorem exists_of_ending? {endings : List (List Char × CaseChange)}
    (found : ending? text endings = some (change, rest)) :
    ∃ ending, (ending, change) ∈ endings ∧ text = ending ++ rest := by
  induction endings with
  | nil => cases found
  | cons first endings ih =>
    rw [ending?] at found
    split at found
    · next front =>
      obtain ⟨after, rfl⟩ := List.isPrefixOf_iff_prefix.mp front
      cases found
      exact ⟨first.1, .head _, by rw [List.drop_left]⟩
    · obtain ⟨ending, member, whole⟩ := ih found
      exact ⟨ending, .tail _ member, whole⟩

theorem eq_ending_of_mem {ending : List Char} (member : (ending, change) ∈ endings) :
    ending = change.ending := by
  simp only [endings, List.mem_cons, Prod.mk.injEq, List.not_mem_nil, or_false] at member
  obtain ⟨rfl, rfl⟩ | ⟨rfl, rfl⟩ := member <;> rfl

theorem read?_of_stands (stands : Stands reference written rest) :
    read? (written ++ rest) = some (reference, rest) := by
  cases stands with
  | plain numeral =>
    have found := number?_of_numeral numeral
    cases written with
    | nil => exact absurd rfl numeral.nonempty
    | cons c digits =>
      rw [List.cons_append] at found ⊢
      rw [read?, if_pos (numeral.only c (.head _)), found]
      rfl
  | braced numeral =>
    have found := number?_of_numeral numeral
    rw [← List.append_assoc] at found
    rw [List.cons_append, read?, if_neg (by decide), if_pos rfl, found]
    simp [ending?_append]

theorem exists_stands_of_read? (found : read? text = some (reference, rest)) :
    ∃ written, text = written ++ rest ∧ Stands reference written rest := by
  cases text with
  | nil => cases found
  | cons c text =>
    rw [read?] at found
    split at found
    · obtain ⟨⟨number, after⟩, numbered, same⟩ := Option.map_eq_some_iff.mp found
      cases same
      obtain ⟨digits, whole, numeral, rfl⟩ := numeral_of_number? numbered
      exact ⟨digits, whole, .plain numeral⟩
    · split at found
      · next brace =>
        split at found
        · cases found
        · next number after numbered =>
          obtain ⟨⟨change, last⟩, ended, same⟩ := Option.map_eq_some_iff.mp found
          cases same
          obtain ⟨digits, rfl, numeral, rfl⟩ := numeral_of_number? numbered
          obtain ⟨ending, member, rfl⟩ := exists_of_ending? ended
          rw [eq_ending_of_mem member] at numeral ⊢
          exact ⟨_, by simp [brace], .braced numeral⟩
      · cases found

/-- Where no reference stands, none is read. -/
theorem read?_eq_none {c : Char} (absent : ∀ reference written after,
    c :: text = '$' :: (written ++ after) → ¬ Stands reference written after) (dollar : c = '$') :
    read? text = none := by
  cases found : read? text with
  | none => rfl
  | some first =>
    obtain ⟨written, whole, stands⟩ := exists_stands_of_read? found
    exact absurd stands (absent _ _ _ (congrArg₂ List.cons dollar whole))

theorem Numeral.isAscii (numeral : Numeral digits rest) : Line.isAscii digits := by
  refine List.all_eq_true.mpr fun c member => decide_eq_true ?_
  have known : Unicode.isAsciiLetter c || Unicode.isAsciiDigit c :=
    Bool.or_eq_true_iff.mpr (.inr (numeral.only c member))
  have bounds := Unicode.toNat_of_letter_or_digit known
  omega

/-- A reference takes as many bytes as it has characters. -/
theorem Stands.isAscii (stands : Stands reference written rest) : Line.isAscii written := by
  cases stands with
  | plain numeral => exact numeral.isAscii
  | @braced digits rest change numeral =>
    have ending : Line.isAscii change.ending := by cases change <;> rfl
    have whole : Line.isAscii ('\x7b' :: (digits ++ change.ending)) =
        (Line.isAscii digits && Line.isAscii change.ending) := by simp [Line.isAscii]
    rw [whole, numeral.isAscii, ending]
    rfl

end Reference

/-! ## All pieces -/

/-- A piece of a name. -/
inductive Piece where
  /-- A character outside of all references. -/
  | literal (c : Char)
  /-- A reference, with what is written of it behind the dollar sign. -/
  | reference (reference : Reference) (written : List Char)

/-- The part of the name that a piece is. -/
def Piece.text : Piece → List Char
  | .literal c => [c]
  | .reference _ written => '$' :: written

/-- What pieces a name consists of. -/
inductive Pieces : List Char → List Piece → Prop where
  | nil : Pieces [] []
  | literal {c : Char} {rest : List Char} {pieces : List Piece}
      (none : ∀ reference written after, c :: rest = '$' :: (written ++ after) →
        ¬ Reference.Stands reference written after)
      (others : Pieces rest pieces) : Pieces (c :: rest) (.literal c :: pieces)
  | reference {reference : Reference} {written rest : List Char} {pieces : List Piece}
      (stands : reference.Stands written rest) (others : Pieces rest pieces) :
      Pieces ('$' :: (written ++ rest)) (.reference reference written :: pieces)

/-- What a piece becomes on a line. A reference to a group that took part becomes what the group
captured, from the first character on that is no dot; any other piece stays. -/
inductive Becomes (line : Line) (captures : Captures) : Piece → List Char → Prop where
  | literal {c : Char} : Becomes line captures (.literal c) [c]
  | captured {reference : Reference} {written dots kept : List Char} {first last : Nat}
      (took : captures[reference.group]? = some (some (first, last)))
      (whole : line.slice first last = dots ++ kept) (dotted : ∀ c ∈ dots, c = '.')
      (undotted : ∀ c ∈ kept.head?, c ≠ '.') :
      Becomes line captures (.reference reference written) (recase reference.change kept)
  | absent {reference : Reference} {written : List Char} (none : ¬ reference.Captured captures) :
      Becomes line captures (.reference reference written) ('$' :: written)

/-- What pieces become one after the other. -/
inductive Fills (line : Line) (captures : Captures) : List Piece → List Char → Prop where
  | nil : Fills line captures [] []
  | cons {piece : Piece} {pieces : List Piece} {content result : List Char}
      (first : Becomes line captures piece content) (others : Fills line captures pieces result) :
      Fills line captures (piece :: pieces) (content ++ result)

variable {text : List Char} {pieces others : List Piece}

namespace Pieces

/-- The pieces are the name. -/
theorem flatMap_text (cut : Pieces text pieces) : pieces.flatMap Piece.text = text := by
  induction cut with
  | nil => rfl
  | literal _ _ ih => rw [List.flatMap_cons, ih, Piece.text, List.singleton_append]
  | reference _ _ ih => rw [List.flatMap_cons, ih, Piece.text, List.cons_append]

theorem isAscii_of_mem (cut : Pieces text pieces) {reference : Reference} {written : List Char}
    (member : .reference reference written ∈ pieces) : Line.isAscii written := by
  induction cut with
  | nil => cases member
  | literal _ _ ih =>
    rcases List.mem_cons.mp member with same | member
    · cases same
    · exact ih member
  | reference stands _ ih =>
    rcases List.mem_cons.mp member with same | member
    · cases same
      exact stands.isAscii
    · exact ih member

theorem unique (cut : Pieces text pieces) (also : Pieces text others) : others = pieces := by
  induction cut generalizing others with
  | nil =>
    cases also
    rfl
  | literal none _ ih =>
    cases also with
    | literal _ also => rw [ih also]
    | reference stands => exact absurd stands (none _ _ _ rfl)
  | @reference reference written rest _ stands _ ih =>
    generalize whole : '$' :: (written ++ rest) = text at also
    cases also with
    | nil => cases whole
    | literal none => exact absurd stands (none _ _ _ whole.symm)
    | @reference second again after _ stands' also =>
      have texts : written ++ rest = again ++ after := List.tail_eq_of_cons_eq whole
      have read := Reference.read?_of_stands stands
      rw [texts, Reference.read?_of_stands stands'] at read
      obtain ⟨rfl, rfl⟩ := Prod.mk.inj (Option.some.inj read)
      rw [List.append_cancel_right texts, ih also]

end Pieces

theorem exists_cut (text : List Char) : ∃ pieces, Pieces text pieces := by
  induction length : text.length using Nat.strong_induction_on generalizing text with
  | _ length shorter =>
    subst length
    cases text with
    | nil => exact ⟨[], .nil⟩
    | cons c rest =>
      by_cases stood : ∃ reference written after, c :: rest = '$' :: (written ++ after) ∧
          Reference.Stands reference written after
      · obtain ⟨reference, written, after, whole, stands⟩ := stood
        have less : after.length < (c :: rest).length := by
          rw [whole, List.length_cons, List.length_append]
          omega
        obtain ⟨pieces, cut⟩ := shorter _ less after rfl
        rw [whole]
        exact ⟨_, .reference stands cut⟩
      · obtain ⟨pieces, cut⟩ := shorter _ (Nat.lt_succ_self _) rest rfl
        have none : ∀ reference written after, c :: rest = '$' :: (written ++ after) →
            ¬ Reference.Stands reference written after :=
          fun reference written after whole stands =>
            stood ⟨reference, written, after, whole, stands⟩
        exact ⟨_, .literal none cut⟩

/-! ## Filling in -/

variable {line : Line} {captures : Captures} {reference : Reference}

theorem Reference.value?_of_took {first last : Nat}
    (took : captures[reference.group]? = some (some (first, last))) :
    reference.value? line captures =
      some (recase reference.change ((line.slice first last).dropWhile (· == '.'))) := by
  simp only [value?, took, Option.some.injEq]
  cases reference.change with
  | none => rfl
  | some change => cases change <;> rfl

theorem Reference.value?_eq_none (none : ¬ reference.Captured captures) :
    reference.value? line captures = .none := by
  rw [value?]
  split
  · next took => exact absurd ⟨_, took⟩ none
  · rfl

/-- What a piece becomes, as it is looked up. -/
def Piece.content (line : Line) (captures : Captures) : Piece → List Char
  | .literal c => [c]
  | .reference named written => (named.value? line captures).getD ('$' :: written)

theorem Becomes.eq_content {piece : Piece} {content : List Char}
    (becomes : Becomes line captures piece content) : content = piece.content line captures := by
  cases becomes with
  | literal => rfl
  | captured took whole dotted undotted =>
    have front : ∀ c ∈ _, (c == '.') = true := fun c member => beq_iff_eq.mpr (dotted c member)
    have back : ∀ c ∈ _, (c == '.') = false := fun c first => beq_false_of_ne (undotted c first)
    rw [Piece.content, Reference.value?_of_took took, whole, dropWhile_append_eq front back,
      Option.getD_some]
  | absent none => rw [Piece.content, Reference.value?_eq_none none, Option.getD_none]

theorem becomes_content (line : Line) (captures : Captures) (piece : Piece) :
    Becomes line captures piece (piece.content line captures) := by
  cases piece with
  | literal c => exact .literal
  | reference reference written =>
    by_cases captured : reference.Captured captures
    · obtain ⟨⟨first, last⟩, took⟩ := captured
      rw [Piece.content, Reference.value?_of_took took, Option.getD_some]
      refine .captured took List.takeWhile_append_dropWhile.symm ?_ ?_
      · exact fun c member => beq_iff_eq.mp (List.mem_takeWhile_imp (p := (· == '.')) member)
      · exact fun c first => ne_of_beq_false (head?_dropWhile_eq_false c first)
    · rw [Piece.content, Reference.value?_eq_none captured, Option.getD_none]
      exact .absent captured

/-- What pieces become is what is looked up for each. -/
theorem fills_iff {result : List Char} : Fills line captures pieces result ↔
    result = pieces.flatMap (Piece.content line captures) := by
  constructor
  · intro fills
    induction fills with
    | nil => rfl
    | cons first _ ih => rw [List.flatMap_cons, first.eq_content, ih]
  · rintro rfl
    induction pieces with
    | nil => exact .nil
    | cons piece pieces ih => exact .cons (becomes_content line captures piece) ih

namespace Template

theorem fill_literal {c : Char} {rest : List Char}
    (none : c = '$' → Reference.read? rest = .none) :
    fill line captures (c :: rest) = c :: fill line captures rest := by
  rw [fill]
  split
  · next dollar =>
    split
    · rw [dollar]
    · next found =>
      rw [none dollar] at found
      cases found
  · rfl

theorem fill_reference {written rest : List Char} (stands : reference.Stands written rest) :
    fill line captures ('$' :: (written ++ rest)) =
      (Piece.reference reference written).content line captures ++ fill line captures rest := by
  have read := Reference.read?_of_stands stands
  rw [fill, if_pos rfl]
  split
  · next missing =>
    rw [read] at missing
    cases missing
  · next found after known =>
    rw [read] at known
    cases known
    have consumed : (written ++ rest).take ((written ++ rest).length - rest.length) = written := by
      simp
    rw [consumed, Piece.content]
    cases reference.value? line captures <;> rfl

/-- Reading from left to right fills the pieces. -/
theorem fill_eq (cut : Pieces text pieces) :
    fill line captures text = pieces.flatMap (Piece.content line captures) := by
  induction cut with
  | nil => rw [fill, List.flatMap_nil]
  | literal none _ ih =>
    rw [fill_literal (Reference.read?_eq_none none), ih]
    rfl
  | reference stands _ ih => rw [fill_reference stands, ih, List.flatMap_cons]

end Template

/-- Some dollar sign is followed by a reference exactly if one of the pieces is a reference. -/
theorem hasReference_iff (cut : Pieces text pieces) :
    hasReference text ↔ ∃ reference written, .reference reference written ∈ pieces := by
  induction cut with
  | nil => simp [hasReference]
  | @literal c rest pieces none _ ih =>
    have unread : (c = '$' && (Reference.read? rest).isSome) = false := by
      by_cases dollar : c = '$'
      · simp [Reference.read?_eq_none none dollar]
      · simp [dollar]
    rw [hasReference, unread, Bool.false_or, ih]
    simp
  | reference stands =>
    rw [hasReference, Reference.read?_of_stands stands]
    exact iff_of_true rfl ⟨_, _, .head _⟩

/-- A name stays what it is if no reference in it has anything to be replaced by. -/
theorem Pieces.flatMap_content (cut : Pieces text pieces) (line : Line)
    (none : ∀ reference written, .reference reference written ∈ pieces →
      ¬ Reference.Captured captures reference) :
    pieces.flatMap (Piece.content line captures) = text := by
  have kept : ∀ piece ∈ pieces, piece.content line captures = piece.text := by
    intro piece member
    cases piece with
    | literal c => rfl
    | reference named written =>
      rw [Piece.content, Reference.value?_eq_none (none _ _ member)]
      rfl
  rw [List.flatMap_congr kept, cut.flatMap_text]

namespace Template

theorem toList_resolve {text : String} (cut : Pieces text.toList pieces) (line : Line)
    (captures : Captures) : ((ofText text).resolve line captures).toList =
      pieces.flatMap (Piece.content line captures) := by
  rw [resolve]
  split
  · rw [String.toList_ofList]
    exact fill_eq cut
  · next unmarked =>
    refine (cut.flatMap_content line fun reference written member => ?_).symm
    exact absurd ((hasReference_iff cut).mpr ⟨reference, written, member⟩) unmarked

/-- Resolving a name replaces its references from left to right. Each text is cut in one way: at
every dollar sign that a reference follows, where all digits in front are the number of the
reference, and a machine word holds it. References are written in ASCII, so that cutting by bytes
comes to the same. The name is marked as having references exactly if there is one among its pieces.
On every line and for all captures, each piece is replaced on its own, so what was captured does not
change how the name is cut. If no group that is referred to took part, the name stays what it is. -/
theorem resolve_substitutes (text : String) :
    ∃ pieces, (∀ others, Pieces text.toList others ↔ others = pieces) ∧
      (∀ reference written, .reference reference written ∈ pieces → Line.isAscii written) ∧
      ((ofText text).hasReference ↔ ∃ reference written, .reference reference written ∈ pieces) ∧
      ∀ line captures,
        (∀ result : String, Fills line captures pieces result.toList ↔
          result = (ofText text).resolve line captures) ∧
        ((∀ reference written, .reference reference written ∈ pieces →
          ¬ Reference.Captured captures reference) →
            (ofText text).resolve line captures = text) := by
  obtain ⟨pieces, cut⟩ := exists_cut text.toList
  refine ⟨pieces, fun others => ⟨cut.unique, fun same => same ▸ cut⟩,
    fun reference written member => cut.isAscii_of_mem member, hasReference_iff cut, ?_⟩
  intro line captures
  constructor
  · intro result
    rw [fills_iff, ← toList_resolve cut, String.toList_inj]
  · intro none
    rw [← String.toList_inj, toList_resolve cut, cut.flatMap_content line none]

/-- A dollar sign in front of a reference, and a braced one that asks for no change of case. What is
filled in looks like a reference, but is none. -/
example : (ofText "$$1.$2.\x24\x7b1:/x\x7d").resolve (.ofString "..$2") [none, some (0, 4)] =
    "$$2.$2.\x24\x7b1:/x\x7d" := by
  decide +kernel

end Template

end ScopeTokenizer.Scope
