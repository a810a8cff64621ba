import Mathlib.Data.List.Infix
import Mathlib.Data.List.TakeWhile
import ScopeTokenizer.Selector.Token

/-!
# The pieces of a selector

A selector is read from left to right. Where a token is written, the longest one that can be is
taken, and the marks of priority go before all others. A character where no token is written stays
outside of all tokens. Together these are the pieces of the selector. Every text has exactly one
such list of pieces, and `Token.readAll` finds the tokens among them.
-/

namespace ScopeTokenizer.Selector

open Text

namespace Token

/-- Whether a text begins with a mark of priority. -/
def Marked (text : List Char) : Prop := left.text <+: text ∨ right.text <+: text

/-- `Leads text token rest` says that `token` is written at the front of `text`, and that `rest`
stands after it. -/
inductive Leads : List Char → Token → List Char → Prop where
  | left {rest : List Char} : Leads ('L' :: ':' :: rest) left rest
  | right {rest : List Char} : Leads ('R' :: ':' :: rest) right rest
  | scope {c : Char} {name rest : List Char} (unmarked : ¬ Marked (c :: (name ++ rest)))
      (begins : beginsScope c) (continues : ∀ d ∈ name, continuesScope d)
      (ends : ∀ d ∈ rest.head?, continuesScope d = false) :
      Leads (c :: (name ++ rest)) (scope (c :: name)) rest
  | operator {c : Char} {token : Token} {rest : List Char} (operator : ofChar? c = some token) :
      Leads (c :: rest) token rest

/-! ## Reading one token -/

/-- What a single character is alone cannot begin a scope name. -/
theorem beginsScope_eq_false_of_ofChar? {c : Char} {token : Token}
    (operator : ofChar? c = some token) : beginsScope c = false := by
  unfold ofChar? at operator
  split at operator
  all_goals first | decide +kernel | cases operator

theorem not_marked_of_ofChar? {c : Char} {token : Token} {rest : List Char}
    (operator : ofChar? c = some token) : ¬ Marked (c :: rest) := by
  rintro (marked | marked)
  all_goals
    obtain ⟨rfl, -⟩ := List.cons_prefix_cons.mp marked
    cases operator

theorem read?_cons {c : Char} {rest : List Char} (unmarked : ¬ Marked (c :: rest)) :
    read? (c :: rest) =
      if beginsScope c then
        some (scope (c :: rest.takeWhile continuesScope), rest.dropWhile continuesScope)
      else (ofChar? c).map (·, rest) := by
  rw [read?]
  · rintro after rfl rfl
    exact unmarked (.inl ⟨after, rfl⟩)
  · rintro after rfl rfl
    exact unmarked (.inr ⟨after, rfl⟩)

theorem read?_of_leads {text rest : List Char} {token : Token} (leads : Leads text token rest) :
    read? text = some (token, rest) := by
  cases leads with
  | left => rfl
  | right => rfl
  | scope unmarked begins continues ends =>
    rw [read?_cons unmarked, if_pos begins, takeWhile_append_eq continues ends,
      dropWhile_append_eq continues ends]
  | operator operator =>
    rw [read?_cons (not_marked_of_ofChar? operator), operator,
      beginsScope_eq_false_of_ofChar? operator]
    rfl

theorem leads_of_read? {text rest : List Char} {token : Token}
    (read : read? text = some (token, rest)) : Leads text token rest := by
  cases text with
  | nil => simp [read?] at read
  | cons c text =>
    by_cases marked : Marked (c :: text)
    · obtain ⟨after, equal⟩ | ⟨after, equal⟩ := marked
      all_goals
        rw [← equal] at read ⊢
        obtain ⟨rfl, rfl⟩ : _ = token ∧ after = rest := by simpa [read?, Token.text] using read
      · exact .left
      · exact .right
    · rw [read?_cons marked] at read
      split at read
      case isTrue begins =>
        obtain ⟨rfl, rfl⟩ := Prod.mk.inj (Option.some.inj read)
        have whole := List.takeWhile_append_dropWhile (p := continuesScope) (l := text)
        have leads : Leads (c :: (text.takeWhile continuesScope ++ text.dropWhile continuesScope))
            (scope (c :: text.takeWhile continuesScope)) (text.dropWhile continuesScope) :=
          .scope (by rwa [whole]) begins (fun d member => List.mem_takeWhile_imp member)
            head?_dropWhile_eq_false
        rwa [whole] at leads
      case isFalse =>
        obtain ⟨operator, found, equal⟩ := Option.map_eq_some_iff.mp read
        obtain ⟨rfl, rfl⟩ := Prod.mk.inj equal
        exact .operator found

theorem Leads.text_append {text rest : List Char} {token : Token} (leads : Leads text token rest) :
    token.text ++ rest = text := by
  cases leads with
  | left => rfl
  | right => rfl
  | scope => rfl
  | @operator c =>
    rename_i operator
    unfold ofChar? at operator
    split at operator
    all_goals cases operator
    all_goals rfl

end Token

/-! ## All pieces -/

/-- A piece of a selector. -/
inductive Piece where
  | token (token : Token)
  /-- A character outside of all tokens. -/
  | outside (c : Char)

/-- The part of the selector that a piece is. -/
def Piece.text : Piece → List Char
  | .token t => t.text
  | .outside c => [c]

/-- The token that a piece is. -/
def Piece.token? : Piece → Option Token
  | .token t => some t
  | .outside _ => none

/-- The tokens among pieces. -/
def tokensOf (pieces : List Piece) : List Token := pieces.filterMap Piece.token?

/-- What pieces a text consists of. -/
inductive Pieces : List Char → List Piece → Prop where
  | nil : Pieces [] []
  | token {text rest : List Char} {token : Token} {pieces : List Piece}
      (leads : Token.Leads text token rest) (others : Pieces rest pieces) :
      Pieces text (.token token :: pieces)
  | outside {c : Char} {rest : List Char} {pieces : List Piece}
      (none : ∀ token after, ¬ Token.Leads (c :: rest) token after) (others : Pieces rest pieces) :
      Pieces (c :: rest) (.outside c :: pieces)

/-- `Stray pieces position` says that the first character outside of all tokens that is not blank
is at `position`, in bytes. -/
def Stray (pieces : List Piece) (position : Nat) : Prop :=
  ∃ before c after, pieces = before ++ .outside c :: after ∧
    (∀ d, .outside d ∈ before → Unicode.isBlank d) ∧ Unicode.isBlank c = false ∧
    position = encodedLength (before.flatMap Piece.text)

namespace Pieces

variable {text : List Char} {pieces others : List Piece}

/-- The pieces are the text. -/
theorem flatMap_text (valid : Pieces text pieces) : pieces.flatMap Piece.text = text := by
  induction valid with
  | nil => rfl
  | token leads _ ih => rw [List.flatMap_cons, ih, Piece.text, leads.text_append]
  | outside _ _ ih => rw [List.flatMap_cons, ih, Piece.text, List.singleton_append]

theorem unique (valid : Pieces text pieces) (also : Pieces text others) : others = pieces := by
  induction valid generalizing others with
  | nil =>
    cases also with
    | nil => rfl
    | token leads => cases leads
  | token leads _ ih =>
    cases also with
    | nil => cases leads
    | token leads' also =>
      have same := (Token.read?_of_leads leads').symm.trans (Token.read?_of_leads leads)
      obtain ⟨rfl, rfl⟩ := Prod.mk.inj (Option.some.inj same)
      rw [ih also]
    | outside none => exact absurd leads (none _ _)
  | outside none _ ih =>
    cases also with
    | token leads => exact absurd leads (none _ _)
    | outside _ also => rw [ih also]

end Pieces

theorem exists_pieces (text : List Char) : ∃ pieces, Pieces text pieces := by
  induction shorter : text.length using Nat.strong_induction_on generalizing text with
  | _ length ih =>
    subst shorter
    cases text with
    | nil => exact ⟨[], .nil⟩
    | cons c rest =>
      cases read : Token.read? (c :: rest) with
      | some found =>
        obtain ⟨pieces, valid⟩ := ih _ (Token.length_read? read) found.2 rfl
        exact ⟨_, .token (Token.leads_of_read? read) valid⟩
      | none =>
        obtain ⟨pieces, valid⟩ := ih _ (Nat.lt_succ_self _) rest rfl
        refine ⟨_, .outside (fun token after leads => ?_) valid⟩
        rw [Token.read?_of_leads leads] at read
        cases read

/-! ## Reading all tokens -/

variable {pieces : List Piece} {position : Nat}

/-- The first character that is stray stands behind every piece that is a token or blank. -/
theorem stray_cons {piece : Piece} (passed : ∀ c, piece = .outside c → Unicode.isBlank c) :
    Stray (piece :: pieces) position ↔
      ∃ later, Stray pieces later ∧ position = encodedLength piece.text + later := by
  constructor
  · rintro ⟨before, c, after, equal, blank, notBlank, rfl⟩
    cases before with
    | nil =>
      rw [passed c (List.cons.inj equal).1] at notBlank
      cases notBlank
    | cons first before =>
      obtain ⟨rfl, rfl⟩ := List.cons.inj equal
      have blanks := fun d member => blank d (.tail _ member)
      refine ⟨_, ⟨before, c, after, rfl, blanks, notBlank, rfl⟩, ?_⟩
      rw [List.flatMap_cons, encodedLength_append]
  · rintro ⟨_, ⟨before, c, after, rfl, blank, notBlank, rfl⟩, rfl⟩
    refine ⟨piece :: before, c, after, rfl, ?_, notBlank, ?_⟩
    · intro d member
      rcases List.mem_cons.mp member with first | member
      · exact passed d first.symm
      · exact blank d member
    · rw [List.flatMap_cons, encodedLength_append]

theorem stray_outside {c : Char} (notBlank : Unicode.isBlank c = false) :
    Stray (.outside c :: pieces) position ↔ position = 0 := by
  constructor
  · rintro ⟨before, d, after, equal, blank, -, rfl⟩
    cases before with
    | nil => rfl
    | cons first before =>
      obtain ⟨rfl, -⟩ := List.cons.inj equal
      rw [blank c (.head _)] at notBlank
      cases notBlank
  · rintro rfl
    exact ⟨[], c, pieces, rfl, by simp, notBlank, rfl⟩

theorem not_stray_nil : ¬ Stray [] position := by
  rintro ⟨before, c, after, equal, -⟩
  cases before <;> cases equal

theorem readAll_of_leads {text rest : List Char} {token : Token}
    (leads : Token.Leads text token rest) (start : Nat) :
    Token.readAll start text =
      (Token.readAll (start + encodedLength token.text) rest).map (token :: ·) := by
  have read := Token.read?_of_leads leads
  cases text with
  | nil => cases leads
  | cons c text =>
    rw [Token.readAll]
    split
    · rename_i found equal
      obtain ⟨rfl, rfl⟩ := Prod.mk.inj (Option.some.inj (equal.symm.trans read))
      rfl
    · rename_i missing
      rw [missing] at read
      cases read

theorem readAll_of_outside {c : Char} {rest : List Char}
    (none : ∀ token after, ¬ Token.Leads (c :: rest) token after) (start : Nat) :
    Token.readAll start (c :: rest) =
      if Unicode.isBlank c then Token.readAll (start + c.utf8Size) rest else .error start := by
  rw [Token.readAll]
  split
  · rename_i equal
    exact absurd (Token.leads_of_read? equal) (none _ _)
  · rfl

/-- All tokens are read if no character is stray. -/
theorem readAll_eq_ok {text : List Char} (valid : Pieces text pieces)
    (none : ∀ position, ¬ Stray pieces position) (start : Nat) :
    Token.readAll start text = .ok (tokensOf pieces) := by
  induction valid generalizing start with
  | nil => simp [Token.readAll, tokensOf]
  | token leads _ ih =>
    have later := fun position stray => none _ ((stray_cons (by simp)).mpr ⟨position, stray, rfl⟩)
    rw [readAll_of_leads leads, ih later]
    rfl
  | @outside c _ _ unled _ ih =>
    have blank : Unicode.isBlank c := by
      by_contra notBlank
      exact none 0 ((stray_outside (by simpa using notBlank)).mpr rfl)
    have later := fun position stray =>
      none _ ((stray_cons (by simpa using blank)).mpr ⟨position, stray, rfl⟩)
    rw [readAll_of_outside unled, if_pos blank, ih later]
    rfl

/-- The position of the first stray character is told. -/
theorem readAll_eq_error {text : List Char} (valid : Pieces text pieces)
    (stray : Stray pieces position) (start : Nat) :
    Token.readAll start text = .error (start + position) := by
  induction valid generalizing start position with
  | nil => exact absurd stray not_stray_nil
  | token leads _ ih =>
    obtain ⟨later, strayLater, rfl⟩ := (stray_cons (by simp)).mp stray
    rw [readAll_of_leads leads, ih strayLater, ← Nat.add_assoc]
    rfl
  | @outside c _ _ unled _ ih =>
    rw [readAll_of_outside unled]
    split
    case isTrue blank =>
      obtain ⟨later, strayLater, rfl⟩ := (stray_cons (by simpa using blank)).mp stray
      rw [ih strayLater, ← Nat.add_assoc]
      rfl
    case isFalse notBlank =>
      rw [(stray_outside (by simpa using notBlank)).mp stray, Nat.add_zero]

end ScopeTokenizer.Selector
