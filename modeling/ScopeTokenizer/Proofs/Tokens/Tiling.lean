import Mathlib.Data.List.Chain
import ScopeTokenizer.Text.Line
import ScopeTokenizer.Tokenizer.Token

/-!
# Tokens side by side

While a line is read, its tokens lie side by side from the start of the line to where reading
has come to. Taking the line feed off in the end keeps that, with a single token for a line
that has no text.
-/

namespace ScopeTokenizer

namespace Line

/-- Two neighbouring slices are one slice. -/
theorem slice_append (line : Line) {first middle last : Nat} (below : first ≤ middle)
    (above : middle ≤ last) :
    line.slice first middle ++ line.slice middle last = line.slice first last := by
  simp only [slice]
  rw [← Array.toList_append, Array.extract_append_extract, Nat.min_eq_left below,
    Nat.max_eq_right above]

theorem slice_self (line : Line) (position : Nat) : line.slice position position = [] := by
  simp [slice]

end Line

/-- Tokens side by side from one position to another one, none of which is empty. -/
def Tiles : Nat → Nat → List Token → Prop
  | first, last, [] => first = last
  | first, last, token :: tokens =>
    token.start = first ∧ first < token.stop ∧ Tiles token.stop last tokens

namespace Tiles

variable {first last : Nat} {tokens left right : List Token}

theorem append_iff :
    Tiles first last (left ++ right) ↔
      ∃ middle, Tiles first middle left ∧ Tiles middle last right := by
  induction left generalizing first with
  | nil => simp [Tiles]
  | cons token tokens ih =>
    simp only [List.cons_append, Tiles, ih]
    constructor
    · rintro ⟨start, nonempty, middle, before, after⟩
      exact ⟨middle, ⟨start, nonempty, before⟩, after⟩
    · rintro ⟨middle, ⟨start, nonempty, before⟩, after⟩
      exact ⟨start, nonempty, middle, before, after⟩

/-- One more token may follow where the others end. -/
theorem concat_iff {token : Token} :
    Tiles first last (tokens ++ [token]) ↔
      Tiles first token.start tokens ∧ token.start < token.stop ∧ token.stop = last := by
  rw [append_iff]
  constructor
  · rintro ⟨middle, before, rfl, nonempty, reached⟩
    exact ⟨before, nonempty, reached⟩
  · rintro ⟨before, nonempty, reached⟩
    exact ⟨token.start, before, rfl, nonempty, reached⟩

theorem le (tiles : Tiles first last tokens) : first ≤ last := by
  induction tokens generalizing first with
  | nil => exact Nat.le_of_eq tiles
  | cons token tokens ih =>
    obtain ⟨-, nonempty, rest⟩ := tiles
    exact Nat.le_trans (Nat.le_of_lt nonempty) (ih rest)

/-- Every token lies between the two positions. -/
theorem inside (tiles : Tiles first last tokens) {token : Token} (mem : token ∈ tokens) :
    first ≤ token.start ∧ token.start < token.stop ∧ token.stop ≤ last := by
  obtain ⟨before, after, rfl⟩ := List.append_of_mem mem
  obtain ⟨middle, left, start, nonempty, right⟩ := append_iff.mp tiles
  have below := left.le
  have above := right.le
  omega

/-- Every token starts where the one before it ends. -/
theorem isChain (tiles : Tiles first last tokens) :
    tokens.IsChain fun token next => token.stop = next.start := by
  induction tokens generalizing first with
  | nil => exact .nil
  | cons token others ih =>
    obtain ⟨-, -, rest⟩ := tiles
    cases others with
    | nil => exact .singleton token
    | cons next others => exact .cons_cons rest.1.symm (ih rest)

/-- Between two positions that are apart there is a first token. -/
theorem head (tiles : Tiles first last tokens) (apart : first < last) :
    ∃ token, tokens.head? = some token ∧ token.start = first := by
  cases tokens with
  | nil =>
    have equal : first = last := tiles
    omega
  | cons token tokens => exact ⟨token, rfl, tiles.1⟩

/-- Between two positions that are apart there is a last token. -/
theorem exists_concat (tiles : Tiles first last tokens) (apart : first < last) :
    ∃ init token, tokens = init ++ [token] := by
  rcases List.eq_nil_or_concat tokens with rfl | ⟨init, token, rfl⟩
  · have equal : first = last := tiles
    omega
  · exact ⟨init, token, List.concat_eq_append⟩

/-- Every position in between lies in some token. -/
theorem exists_covering (tiles : Tiles first last tokens) {position : Nat}
    (above : first ≤ position) (below : position < last) :
    ∃ token ∈ tokens, token.start ≤ position ∧ position < token.stop := by
  induction tokens generalizing first with
  | nil =>
    have equal : first = last := tiles
    omega
  | cons token tokens ih =>
    obtain ⟨start, nonempty, rest⟩ := tiles
    by_cases within : position < token.stop
    · exact ⟨token, List.mem_cons_self, by omega, within⟩
    · obtain ⟨other, mem, covering⟩ := ih rest (by omega)
      exact ⟨other, List.mem_cons_of_mem _ mem, covering⟩

/-- The texts of the tokens make up the text between the two positions. -/
theorem flatMap_slice (tiles : Tiles first last tokens) (line : Line) :
    (tokens.flatMap fun token => line.slice token.start token.stop) = line.slice first last := by
  induction tokens generalizing first with
  | nil =>
    have equal : first = last := tiles
    rw [equal, List.flatMap_nil, line.slice_self]
  | cons token tokens ih =>
    obtain ⟨start, nonempty, rest⟩ := tiles
    rw [List.flatMap_cons, ih rest, start, line.slice_append (Nat.le_of_lt nonempty) rest.le]

end Tiles

namespace LineTokens

/-- Tokens with names that lie side by side from the start of the line. -/
structure Tiled (tokens : LineTokens) : Prop where
  plain : tokens.styled = false
  tiles : Tiles 0 tokens.stop tokens.named.toList

theorem tiled_start : Tiled { styled := false } := ⟨rfl, rfl⟩

theorem Tiled.add {tokens : LineTokens} (tiled : tokens.Tiled) (scopes : ScopePath) (stop : Nat) :
    (tokens.add scopes stop).Tiled := by
  refine ⟨(styled_add tokens scopes stop).trans tiled.plain, ?_⟩
  simp only [LineTokens.add]
  split
  · exact tiled.tiles
  · next further =>
    rw [tiled.plain, if_neg Bool.false_ne_true, Array.toList_push]
    exact Tiles.concat_iff.mpr ⟨tiled.tiles, Nat.lt_of_not_le further, rfl⟩

theorem dropLineFeed_concat {α : Type} (start : α → Nat) (length : Nat) (init : List α)
    (last : α) :
    dropLineFeed start length (init ++ [last]) =
      if start last + 1 = length then init else init ++ [last] := by
  simp [dropLineFeed]

theorem shorten_concat (length : Nat) (init : List Token) (last : Token) :
    shorten length (init ++ [last]) =
      init ++ [if last.stop = length then { last with stop := length - 1 } else last] := by
  simp only [shorten, List.getLast?_concat, List.dropLast_concat]
  split <;> rfl

/-- What is left of tokens that reach behind the line feed: a single empty token, or the tokens
up to the line feed, each as it was or cut shorter. -/
theorem Tiled.tokens_cases {tokens : LineTokens} (tiled : tokens.Tiled) (scopes : ScopePath)
    {length : Nat} (reached : tokens.stop = length + 1) :
    (length = 0 ∧ tokens.tokens scopes (length + 1) = [⟨0, 0, scopes.names⟩]) ∨
      (0 < length ∧ Tiles 0 length (tokens.tokens scopes (length + 1)) ∧
        ∀ token ∈ tokens.tokens scopes (length + 1),
          ∃ whole ∈ tokens.named.toList, whole.start = token.start ∧
            token.stop ≤ whole.stop ∧ whole.scopes = token.scopes) := by
  have tiles := tiled.tiles
  rw [reached] at tiles
  obtain ⟨init, last, named⟩ := tiles.exists_concat (Nat.succ_pos length)
  rw [named] at tiles
  obtain ⟨before, nonempty, stop⟩ := Tiles.concat_iff.mp tiles
  unfold LineTokens.tokens
  rw [named, dropLineFeed_concat]
  by_cases feed : last.start = length
  · -- The last token is the line feed.
    rw [if_pos (by omega)]
    rw [feed] at before
    by_cases empty : length = 0
    · refine .inl ⟨empty, ?_⟩
      subst empty
      obtain rfl : init = [] := by
        cases init with
        | nil => rfl
        | cons token others => exact absurd (before.inside List.mem_cons_self) (by omega)
      rfl
    · refine .inr ⟨by omega, ?_⟩
      obtain ⟨init, token, rfl⟩ := before.exists_concat (by omega)
      obtain ⟨-, -, ends⟩ := Tiles.concat_iff.mp before
      dsimp only
      rw [if_neg (by simp), shorten_concat, if_neg (by omega)]
      exact ⟨before, fun token mem =>
        ⟨token, List.mem_append_left _ mem, rfl, Nat.le_refl _, rfl⟩⟩
  · -- The last token is cut before the line feed.
    rw [if_neg (by omega)]
    dsimp only
    rw [if_neg (by simp), shorten_concat, if_pos stop, Nat.add_sub_cancel]
    refine .inr ⟨by omega, Tiles.concat_iff.mpr ⟨before, ?_, rfl⟩, fun token mem => ?_⟩
    · dsimp only
      omega
    · rcases List.mem_append.mp mem with mem | mem
      · exact ⟨token, List.mem_append_left _ mem, rfl, Nat.le_refl _, rfl⟩
      · obtain rfl := List.mem_singleton.mp mem
        exact ⟨last, List.mem_append_right _ List.mem_cons_self, rfl, by dsimp only; omega, rfl⟩

end LineTokens

end ScopeTokenizer
