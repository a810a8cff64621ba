import ScopeTokenizer.Proofs.Pattern.Resolving

/-!
# What is known about a pattern

Two things are noted about the pattern of a grammar when it is made: whether it has an anchor, and
whether it has a reference. Both save work later, and both are noted before the ends of lines are
rewritten, while the work is done on the text after that. Here a text is read by signs, a backslash
always together with the one character that it escapes, and the changes to a pattern are compared
with changes to its signs one by one.
-/

namespace ScopeTokenizer.Pattern

open Unicode

/-- A sign of a pattern. -/
inductive Sign where
  | plain (c : Char)
  /-- A backslash with the character that it escapes. -/
  | escaped (c : Char)
  /-- A backslash that escapes nothing, at the end of the text. -/
  | lone
  deriving DecidableEq, Repr

namespace Sign

/-- How a sign is written. -/
def text : Sign → List Char
  | plain c => [c]
  | escaped c => ['\\', c]
  | lone => ['\\']

/-- The signs of a text. -/
def ofText : List Char → List Sign
  | [] => []
  | [c] => [if c = '\\' then lone else plain c]
  | c :: d :: rest =>
    if c = '\\' then escaped d :: ofText rest else plain c :: ofText (d :: rest)

/-- What a sign becomes where only certain anchors may match. -/
def disable (anchors : Anchors) : Sign → Sign
  | escaped c =>
    if c = 'A' ∧ anchors.start = false ∨ c = 'G' ∧ anchors.here = false then
      plain Anchors.placeholder
    else escaped c
  | sign => sign

variable {text : List Char}

theorem ofText_cons {c : Char} (other : c ≠ '\\') :
    ofText (c :: text) = plain c :: ofText text := by
  cases text with
  | nil => simp [ofText, other]
  | cons => simp [ofText, other]

@[simp] theorem ofText_escaped (c : Char) :
    ofText ('\\' :: c :: text) = escaped c :: ofText text := by
  simp [ofText]

theorem ofText_append {front : List Char} (others : ∀ c ∈ front, c ≠ '\\') :
    ofText (front ++ text) = front.map plain ++ ofText text := by
  induction front with
  | nil => rfl
  | cons c front ih =>
    rw [List.forall_mem_cons] at others
    rw [List.cons_append, ofText_cons others.1, ih others.2, List.map_cons, List.cons_append]

end Sign

/-! ## The signs of pieces -/

namespace Piece

/-- A piece that stands for itself: its characters make no other pieces. -/
def Formed : Piece → Prop
  | literal c => c ≠ '\\'
  | escape c => isAsciiDigit c = false
  | reference digits => digits ≠ [] ∧ ∀ c ∈ digits, isAsciiDigit c = true
  | dangling => True

theorem Reads.formed {text : List Char} {pieces : List Piece} (reads : Reads text pieces) :
    ∀ piece ∈ pieces, piece.Formed := by
  induction reads with
  | nil => exact nofun
  | literal plain _ ih | escape plain _ ih => exact List.forall_mem_cons.mpr ⟨plain, ih⟩
  | reference nonempty digits_only _ _ ih =>
    exact List.forall_mem_cons.mpr ⟨⟨nonempty, digits_only⟩, ih⟩
  | dangling => exact List.forall_mem_singleton.mpr trivial

/-- The signs that a piece is written with. -/
def signs : Piece → List Sign
  | literal c => [.plain c]
  | escape c => [.escaped c]
  | reference [] => [.lone]
  | reference (digit :: digits) => .escaped digit :: digits.map .plain
  | dangling => [.lone]

/-- A text has the signs of its pieces. -/
theorem Reads.signs_eq {text : List Char} {pieces : List Piece} (reads : Reads text pieces) :
    Sign.ofText text = pieces.flatMap signs := by
  induction reads with
  | nil | dangling => rfl
  | literal plain _ ih =>
    rw [Sign.ofText_cons plain, ih, List.flatMap_cons, signs, List.singleton_append]
  | escape _ _ ih => rw [Sign.ofText_escaped, ih, List.flatMap_cons, signs, List.singleton_append]
  | @reference digits text pieces nonempty digits_only _ _ ih =>
    cases digits with
    | nil => exact absurd rfl nonempty
    | cons digit digits =>
      rw [List.forall_mem_cons] at digits_only
      have others (c : Char) (mem : c ∈ digits) : c ≠ '\\' := by
        rintro rfl
        cases digits_only.2 _ mem
      rw [List.cons_append, Sign.ofText_escaped, Sign.ofText_append others, ih, List.flatMap_cons,
        signs, List.cons_append]

theorem flatMap_text_signs (piece : Piece) : piece.signs.flatMap Sign.text = piece.text := by
  cases piece with
  | literal | escape | dangling => rfl
  | reference digits =>
    cases digits with
    | nil => rfl
    | cons digit digits => simp [signs, Sign.text, text, List.flatMap_map]

/-- What is escaped in a piece: a letter, or the first digit of a reference. -/
theorem Formed.escaped_mem_signs {piece : Piece} (formed : piece.Formed) (c : Char) :
    .escaped c ∈ piece.signs ↔ if isAsciiDigit c then ∃ digits, piece = .reference (c :: digits)
      else piece = .escape c := by
  cases piece with
  | literal | dangling => simp [signs]
  | escape d =>
    simp only [signs, List.mem_singleton, Sign.escaped.injEq, reduceCtorEq, exists_false,
      escape.injEq]
    have plain : isAsciiDigit d = false := formed
    constructor
    · rintro rfl
      simp [plain]
    · intro is
      split at is
      · exact is.elim
      · exact is.symm
  | reference digits =>
    obtain ⟨nonempty, digits_only⟩ := formed
    cases digits with
    | nil => exact absurd rfl nonempty
    | cons digit digits =>
      have first := digits_only digit List.mem_cons_self
      simp only [signs, List.mem_cons, Sign.escaped.injEq, List.mem_map, reduceCtorEq, and_false,
        exists_false, or_false, reference.injEq, List.cons.injEq]
      constructor
      · rintro rfl
        simp [first]
      · intro is
        split at is
        · obtain ⟨_, same, -⟩ := is
          exact same.symm
        · exact is.elim

end Piece

theorem Sign.flatMap_text (text : List Char) : (ofText text).flatMap Sign.text = text := by
  have reads := Piece.reads_ofText text
  rw [reads.signs_eq, List.flatMap_assoc]
  simp only [Piece.flatMap_text_signs]
  exact reads.textOf_eq

/-- What is escaped in a text. -/
theorem Sign.escaped_mem_ofText (text : List Char) (c : Char) :
    .escaped c ∈ ofText text ↔
      if isAsciiDigit c then ∃ digits, .reference (c :: digits) ∈ Piece.ofText text
      else .escape c ∈ Piece.ofText text := by
  have reads := Piece.reads_ofText text
  rw [reads.signs_eq, List.mem_flatMap]
  constructor
  · rintro ⟨piece, mem, escapes⟩
    have is := ((reads.formed piece mem).escaped_mem_signs c).mp escapes
    split at is
    · obtain ⟨digits, rfl⟩ := is
      simpa [*] using ⟨digits, mem⟩
    · simpa [*] using is ▸ mem
  · intro is
    split at is
    · obtain ⟨digits, mem⟩ := is
      exact ⟨_, mem, List.mem_cons_self⟩
    · exact ⟨_, is, List.mem_singleton_self _⟩

/-! ## Disabling anchors -/

namespace Anchors

open Piece

variable (anchors : Anchors)

theorem disable_of_ne {sign : Sign} (start : sign ≠ .escaped 'A') (here : sign ≠ .escaped 'G') :
    sign.disable anchors = sign := by
  cases sign with
  | plain | lone => rfl
  | escaped c =>
    have start : c ≠ 'A' := by simpa using start
    have here : c ≠ 'G' := by simpa using here
    simp [Sign.disable, start, here]

theorem signs_resolvePiece {piece : Piece} (formed : piece.Formed) :
    (anchors.resolvePiece piece).signs = piece.signs.map (Sign.disable anchors) := by
  by_cases start : piece = .escape 'A'
  · subst start
    cases off : anchors.start <;> simp [resolvePiece, Sign.disable, off, signs]
  · by_cases here : piece = .escape 'G'
    · subst here
      cases off : anchors.here <;> simp [resolvePiece, Sign.disable, off, signs]
    · have letter (c : Char) (plain : isAsciiDigit c = false) (other : piece ≠ .escape c) :
          Sign.escaped c ∉ piece.signs := by
        rw [formed.escaped_mem_signs, plain]
        exact other
      have kept : ∀ sign ∈ piece.signs, sign.disable anchors = sign := by
        intro sign mem
        apply anchors.disable_of_ne
        · rintro rfl
          exact letter 'A' (by decide) start mem
        · rintro rfl
          exact letter 'G' (by decide) here mem
      rw [anchors.resolvePiece_of_ne start here, List.map_congr_left kept, List.map_id']

/-- Disabling anchors changes a pattern sign by sign. -/
theorem signs_resolve (pattern : String) :
    Sign.ofText (anchors.resolve pattern).toList =
      (Sign.ofText pattern.toList).map (Sign.disable anchors) := by
  have reads := reads_ofText pattern.toList
  rw [(anchors.reads_resolve pattern).signs_eq, reads.signs_eq, List.flatMap_map, List.map_flatMap]
  exact List.flatMap_congr fun piece mem => anchors.signs_resolvePiece (reads.formed piece mem)

theorem resolve_eq (pattern : String) :
    anchors.resolve pattern = String.ofList
      ((Sign.ofText pattern.toList).flatMap fun sign => (sign.disable anchors).text) := by
  rw [← String.toList_inj, String.toList_ofList, ← Sign.flatMap_text (anchors.resolve _).toList,
    signs_resolve, List.flatMap_map]

/-- Anchors that are disabled one after the other are all disabled. -/
theorem resolve_resolve (first second : Anchors) (pattern : String) :
    second.resolve (first.resolve pattern) =
      (Anchors.mk (first.start && second.start) (first.here && second.here)).resolve pattern := by
  have twice (sign : Sign) : (sign.disable first).disable second =
      sign.disable ⟨first.start && second.start, first.here && second.here⟩ := by
    by_cases start : sign = .escaped 'A'
    · subst start
      cases off : first.start <;> simp [Sign.disable, off]
    · by_cases here : sign = .escaped 'G'
      · subst here
        cases off : first.here <;> simp [Sign.disable, off]
      · simp only [disable_of_ne _ start here]
  rw [resolve_eq second, signs_resolve, List.flatMap_map, resolve_eq]
  simp only [twice]

/-- No sign becomes an anchor that is disabled. -/
theorem disable_ne (sign : Sign) :
    (anchors.start = false → sign.disable anchors ≠ .escaped 'A') ∧
      (anchors.here = false → sign.disable anchors ≠ .escaped 'G') := by
  cases sign with
  | plain | lone => exact ⟨fun _ => nofun, fun _ => nofun⟩
  | escaped c =>
    simp only [Sign.disable]
    split
    · exact ⟨fun _ => nofun, fun _ => nofun⟩
    · next kept =>
      simp only [not_or, not_and] at kept
      refine ⟨fun off is => ?_, fun off is => ?_⟩
      · exact kept.1 (Sign.escaped.inj is) off
      · exact kept.2 (Sign.escaped.inj is) off

end Anchors

namespace Source

open Piece

/-! ## What is noted -/

variable (text : String)

theorem text_ofText :
    (ofText text).text = String.ofList ((Piece.ofText text.toList).flatMap pieceText) :=
  rfl

theorem hasAnchor_ofText :
    (ofText text).hasAnchor = (Piece.ofText text.toList).any isAnchor :=
  rfl

theorem hasReference_ofText :
    (ofText text).hasReference = (Piece.ofText text.toList).any isReference :=
  rfl

theorem hasAnchor_iff : (ofText text).hasAnchor = true ↔
    .escaped 'A' ∈ Sign.ofText text.toList ∨ .escaped 'G' ∈ Sign.ofText text.toList := by
  have start : isAsciiDigit 'A' = false := by decide
  have here : isAsciiDigit 'G' = false := by decide
  simp only [Sign.escaped_mem_ofText, start, here, Bool.false_eq_true, if_false]
  rw [hasAnchor_ofText, List.any_eq_true]
  constructor
  · rintro ⟨piece, mem, is⟩
    cases piece with
    | escape c =>
      simp only [isAnchor, Bool.or_eq_true, decide_eq_true_eq] at is
      rcases is with rfl | rfl
      · exact .inl mem
      · exact .inr mem
    | literal | reference | dangling => cases is
  · rintro (mem | mem)
    · exact ⟨_, mem, rfl⟩
    · exact ⟨_, mem, rfl⟩

theorem hasReference_iff : (ofText text).hasReference = true ↔
    ∃ digit, isAsciiDigit digit = true ∧ .escaped digit ∈ Sign.ofText text.toList := by
  rw [hasReference_ofText, List.any_eq_true]
  constructor
  · rintro ⟨piece, mem, is⟩
    cases piece with
    | literal | escape | dangling => cases is
    | reference digits =>
      obtain ⟨nonempty, digits_only⟩ := (reads_ofText text.toList).formed _ mem
      cases digits with
      | nil => exact absurd rfl nonempty
      | cons digit digits =>
        have first := digits_only digit List.mem_cons_self
        refine ⟨digit, first, ?_⟩
        rw [Sign.escaped_mem_ofText, if_pos first]
        exact ⟨digits, mem⟩
  · rintro ⟨digit, first, escaped⟩
    rw [Sign.escaped_mem_ofText, if_pos first] at escaped
    obtain ⟨digits, mem⟩ := escaped
    exact ⟨_, mem, rfl⟩

/-! ## Ends of lines -/

theorem rewritten_of_ne {piece : Piece} (other : piece ≠ .escape 'z') :
    rewritten piece = [piece] := by
  unfold rewritten
  split
  · exact absurd rfl other
  · rfl

theorem escape_z_notMem_rewritten (piece : Piece) : .escape 'z' ∉ rewritten piece := by
  by_cases line : piece = .escape 'z'
  · subst line
    rw [rewritten, ofText_lineEnd]
    decide
  · rw [rewritten_of_ne line, List.mem_singleton]
    exact Ne.symm line

theorem any_rewritten {kind : Piece → Bool} (plain : (Piece.ofText lineEnd).any kind = false)
    (other : kind (.escape 'z') = false) (piece : Piece) :
    (rewritten piece).any kind = kind piece := by
  by_cases line : piece = .escape 'z'
  · subst line
    rw [rewritten, plain, other]
  · rw [rewritten_of_ne line, List.any_cons, List.any_nil, Bool.or_false]

theorem escape_z_notMem_text : .escape 'z' ∉ Piece.ofText (ofText text).text.toList := by
  rw [ofText_text, List.mem_flatMap]
  rintro ⟨piece, -, mem⟩
  exact escape_z_notMem_rewritten piece mem

/-- What holds of some piece of a grammar's pattern, or of none, does so after the ends of lines are
rewritten. -/
theorem any_text {kind : Piece → Bool} (plain : (Piece.ofText lineEnd).any kind = false)
    (other : kind (.escape 'z') = false) :
    (Piece.ofText (ofText text).text.toList).any kind = (Piece.ofText text.toList).any kind := by
  rw [ofText_text, List.any_flatMap]
  exact congrArg _ (funext (any_rewritten plain other))

@[simp] theorem hasAnchor_ofText_text :
    (ofText (ofText text).text).hasAnchor = (ofText text).hasAnchor := by
  rw [hasAnchor_ofText, hasAnchor_ofText, any_text text (by rw [ofText_lineEnd]; rfl) rfl]

@[simp] theorem hasReference_ofText_text :
    (ofText (ofText text).text).hasReference = (ofText text).hasReference := by
  rw [hasReference_ofText, hasReference_ofText, any_text text (by rw [ofText_lineEnd]; rfl) rfl]

@[simp] theorem text_ofText_text : (ofText (ofText text).text).text = (ofText text).text := by
  have kept : ∀ piece ∈ Piece.ofText (ofText text).text.toList,
      pieceText piece = piece.text := by
    intro piece mem
    unfold pieceText
    split
    · exact absurd mem (escape_z_notMem_text text)
    · rfl
  have whole : (Piece.ofText (ofText text).text.toList).flatMap pieceText =
      (ofText text).text.toList := by
    rw [List.flatMap_congr kept]
    exact textOf_ofText _
  rw [text_ofText (ofText text).text, whole, String.ofList_toList]

theorem eq_of_fields {first second : Source} (texts : first.text = second.text)
    (anchors : first.hasAnchor = second.hasAnchor)
    (references : first.hasReference = second.hasReference) : first = second := by
  cases first
  cases second
  rw [mk.injEq]
  exact ⟨texts, anchors, references⟩

/-- A pattern that is made from the text of a pattern is that pattern. -/
theorem ofText_text_eq : ofText (ofText text).text = ofText text :=
  eq_of_fields (text_ofText_text text) (hasAnchor_ofText_text text) (hasReference_ofText_text text)

/-! ## The work that is saved -/

/-- Without an anchor there is no sign to disable. -/
theorem disable_of_hasAnchor_eq_false (none : (ofText text).hasAnchor = false) (anchors : Anchors) :
    ∀ sign ∈ Sign.ofText (ofText text).text.toList, sign.disable anchors = sign := by
  rw [← hasAnchor_ofText_text, Bool.eq_false_iff, Ne, hasAnchor_iff, not_or] at none
  intro sign mem
  exact anchors.disable_of_ne (ne_of_mem_of_not_mem mem none.1) (ne_of_mem_of_not_mem mem none.2)

theorem resolve_of_hasAnchor_eq_false (none : (ofText text).hasAnchor = false) (anchors : Anchors) :
    anchors.resolve (ofText text).text = (ofText text).text := by
  have kept := disable_of_hasAnchor_eq_false text none anchors
  have same : ∀ sign ∈ Sign.ofText (ofText text).text.toList,
      (sign.disable anchors).text = sign.text := fun sign mem => by rw [kept sign mem]
  rw [anchors.resolve_eq, List.flatMap_congr same, Sign.flatMap_text, String.ofList_toList]

/-- What is known about the anchors of a pattern saves work, but does not change the outcome. -/
theorem resolveAnchors_eq (anchors : Anchors) :
    (ofText text).resolveAnchors anchors = anchors.resolve (ofText text).text := by
  unfold resolveAnchors
  split
  · rfl
  · next none =>
    exact (resolve_of_hasAnchor_eq_false text (Bool.eq_false_iff.mpr none) anchors).symm

theorem resolveReferences_of_hasReference_eq_false (none : (ofText text).hasReference = false)
    (line : Line) (captures : Captures) :
    (ofText text).resolveReferences line captures = (ofText text).text := by
  have kept : ∀ piece ∈ Piece.ofText (ofText text).text.toList,
      referencedText line captures piece = piece.text := by
    intro piece mem
    cases piece with
    | literal | escape | dangling => rfl
    | reference digits =>
      have known : (Piece.ofText (ofText text).text.toList).any isReference = false :=
        (any_text text (by rw [ofText_lineEnd]; rfl) rfl).trans none
      exact absurd rfl (List.any_eq_false.mp known _ mem)
  unfold resolveReferences
  rw [List.flatMap_congr kept]
  exact (congrArg String.ofList (textOf_ofText _)).trans String.ofList_toList

/-- What is noted of a pattern is right, and what it saves changes nothing. The flags say whether
there is an anchor, and whether a digit is escaped. No end of a line is left to rewrite. Anchors are
disabled sign by sign, whether or not there are any, after which those that are disabled are gone;
disabling some and then others is the same as disabling all of them at once. A pattern without
references is left alone by what a match captured. -/
theorem flags_sound :
    ((ofText text).hasAnchor = true ↔
      .escaped 'A' ∈ Sign.ofText text.toList ∨ .escaped 'G' ∈ Sign.ofText text.toList) ∧
    ((ofText text).hasReference = true ↔
      ∃ digit, isAsciiDigit digit = true ∧ .escaped digit ∈ Sign.ofText text.toList) ∧
    let source := ofText text
    let signs := Sign.ofText source.text.toList
    .escaped 'z' ∉ signs ∧ ofText source.text = source ∧
    (∀ anchors : Anchors,
      let disabled := String.ofList (signs.flatMap fun sign => (sign.disable anchors).text)
      source.resolveAnchors anchors = disabled ∧ anchors.resolve source.text = disabled ∧
      (source.hasAnchor = false → disabled = source.text) ∧
      Sign.ofText disabled.toList = signs.map (Sign.disable anchors) ∧
      (anchors.start = false → .escaped 'A' ∉ Sign.ofText disabled.toList) ∧
      (anchors.here = false → .escaped 'G' ∉ Sign.ofText disabled.toList)) ∧
    (∀ first second : Anchors, second.resolve (source.resolveAnchors first) =
      source.resolveAnchors ⟨first.start && second.start, first.here && second.here⟩) ∧
    (source.hasReference = false → ∀ line captures,
      source.resolveReferences line captures = source.text) := by
  refine ⟨hasAnchor_iff text, hasReference_iff text, ?_⟩
  intro source signs
  refine ⟨?_, ofText_text_eq text, ?_, ?_, resolveReferences_of_hasReference_eq_false text⟩
  · rw [Sign.escaped_mem_ofText]
    exact escape_z_notMem_text text
  · intro anchors disabled
    have whole : anchors.resolve source.text = disabled := anchors.resolve_eq source.text
    have written : Sign.ofText disabled.toList = signs.map (Sign.disable anchors) := by
      rw [← whole, anchors.signs_resolve]
    refine ⟨(resolveAnchors_eq text anchors).trans whole, whole, ?_, written, ?_, ?_⟩
    · intro none
      rw [← whole, resolve_of_hasAnchor_eq_false text none anchors]
    · intro off mem
      obtain ⟨sign, -, is⟩ := List.mem_map.mp (written ▸ mem)
      exact (anchors.disable_ne sign).1 off is
    · intro off mem
      obtain ⟨sign, -, is⟩ := List.mem_map.mp (written ▸ mem)
      exact (anchors.disable_ne sign).2 off is
  · intro first second
    rw [resolveAnchors_eq, resolveAnchors_eq, Anchors.resolve_resolve]

end Source

end ScopeTokenizer.Pattern
