import ScopeTokenizer.Proofs.Pattern.Searching
import ScopeTokenizer.Tokenizer.Reading

/-!
# The engine of plain texts

The smallest engine: every text is a pattern, and matches itself. It stays within the text and
only looks ahead, as engines are assumed to.
-/

namespace ScopeTokenizer

open Grammar Pattern Style

namespace Pattern.Engine

/-- The engine in which a pattern matches its own text. -/
def literal : Engine where
  Compiled := List Char
  compile? _ pattern := some pattern.toList
  matchAt pattern text _ position :=
    if pattern.isPrefixOf (text.toList.drop position) then
      some [some (position, position + pattern.length)]
    else none

/-- The one span of a match is as long as the pattern, and ends within the text. -/
theorem literal_matchAt {pattern : List Char} {text : Array Char} {searchStart position : Nat}
    {captures : Captures} (inside : position ≤ text.size)
    (run : literal.matchAt pattern text searchStart position = some captures) :
    captures = [some (position, position + pattern.length)] ∧
      position + pattern.length ≤ text.size := by
  simp only [literal, Option.ite_none_right_eq_some, Option.some.injEq] at run
  obtain ⟨found, rfl⟩ := run
  have size : text.toList.length = text.size := Array.length_toList
  have shorter := (List.isPrefixOf_iff_prefix.mp found).length_le
  rw [List.length_drop, size] at shorter
  exact ⟨rfl, by omega⟩

theorem literal_withinText : literal.WithinText := by
  intro pattern text searchStart position captures span inside run mem
  obtain ⟨rfl, below⟩ := literal_matchAt inside run
  obtain ⟨⟩ := List.mem_singleton.mp mem
  exact ⟨inside, below⟩

theorem literal_forward : literal.Forward := by
  intro pattern text searchStart position captures span above inside run head
  obtain ⟨rfl, below⟩ := literal_matchAt inside run
  obtain ⟨⟩ := head
  exact ⟨above, Nat.le_add_right _ _, below⟩

end Pattern.Engine

/-- A grammar of comments in brackets, which may contain one another. -/
def Grammar.bracketed : GrammarDef where
  scopeName := "source"
  patterns := [{ includeName := some "#comment" }]
  repository := [("comment",
    { name := some "comment"
      contentName := some "inside"
      beginPattern := some "<"
      endPattern := some ">"
      patterns := [{ includeName := some "#comment" }] })]

namespace Tokenizer

/-- The tokenizer of a grammar, by plain texts and without colors. -/
def ofTexts (grammar : GrammarDef) : Except GrammarError (Tokenizer Engine.literal) :=
  ofGrammar .literal grammar {} {} ⟨none, {}, {}, {}⟩

/-- Something was made if anything is answered with it. -/
theorem exists_ok_of_isSome {α β ε : Type} {made : Except ε β} {ask : β → Option α}
    (answers : (made.toOption.bind ask).isSome) :
    ∃ b answer, made = .ok b ∧ ask b = some answer := by
  cases made with
  | error error => cases answers
  | ok b =>
    obtain ⟨answer, asked⟩ := Option.isSome_iff_exists.mp answers
    exact ⟨b, answer, rfl, asked⟩

/-- A grammar compiles if its tokenizer answers anything. -/
theorem exists_ofTexts {α : Type} (grammar : GrammarDef)
    (ask : Tokenizer Engine.literal → Option α)
    (answers : ((ofTexts grammar).toOption.bind ask).isSome) :
    ∃ tokenizer answer, ofTexts grammar = .ok tokenizer ∧ ask tokenizer = some answer :=
  exists_ok_of_isSome answers

/-- The tokenizer of comments in brackets. -/
def bracketed : Except GrammarError (Tokenizer Engine.literal) :=
  ofTexts Grammar.bracketed

end Tokenizer

end ScopeTokenizer
