import ScopeTokenizer.Proofs.Pattern.Literal
import ScopeTokenizer.Proofs.Reading.Answers
import ScopeTokenizer.Proofs.Tokens.Tiling

/-!
# The tokens of a line make up the line

Whatever a grammar makes of a line, the tokens cover its text without gaps and overlaps. All of
an engine that this depends on is that it reports only positions of the text.
-/

namespace ScopeTokenizer

open Grammar Pattern Style

variable {engine : Engine}

namespace Tokenizer

/-- The text of a line that tokens show: all of it, up to a line feed at its end. -/
def shown (text : String) : List Char :=
  if text.toList.getLast? = some '\n' then text.toList.dropLast else text.toList

/-- Patterns see one character more than tokens show. -/
theorem length_terminated (text : String) :
    (terminated text).length = (shown text).length + 1 := by
  simp only [terminated, shown]
  split
  · next ends =>
    have nonempty : 0 < text.toList.length := List.length_pos_of_mem (List.mem_of_getLast? ends)
    rw [Line.length_ofChars, List.length_dropLast]
    omega
  · rw [Line.length_ofChars, List.length_append, List.length_singleton]

/-- The text shown is the first part of the line. -/
theorem slice_shown (text : String) :
    (Line.ofString text).slice 0 (shown text).length = shown text := by
  simp only [Line.ofString]
  rw [Line.slice_ofChars, List.drop_zero, Nat.sub_zero]
  simp only [shown]
  split
  · rw [List.length_dropLast, List.dropLast_eq_take]
  · exact List.take_length

theorem length_shown_le (text : String) :
    (shown text).length ≤ (Line.ofString text).length := by
  simp only [Line.ofString, shown]
  rw [Line.length_ofChars]
  split
  · rw [List.length_dropLast]
    exact Nat.sub_le _ _
  · exact Nat.le_refl _

end Tokenizer

/-- Tokens that make up a line. -/
structure Partition (text : String) (tokens : List Token) : Prop where
  /-- A line without text has a single token. -/
  empty : Tokenizer.shown text = [] → tokens.map (fun token => (token.start, token.stop)) = [(0, 0)]
  /-- Otherwise the first token starts with the line. -/
  head : Tokenizer.shown text ≠ [] → ∃ token, tokens.head? = some token ∧ token.start = 0
  nonempty : Tokenizer.shown text ≠ [] → ∀ token ∈ tokens, token.start < token.stop
  /-- Every token starts where the one before it ends. -/
  adjacent : tokens.IsChain fun token next => token.stop = next.start
  /-- The last token ends with the text. -/
  last : ∃ token, tokens.getLast? = some token ∧ token.stop = (Tokenizer.shown text).length
  /-- Every token can be cut out of the line. -/
  inside : ∀ token ∈ tokens,
    token.start ≤ token.stop ∧ token.stop ≤ (Line.ofString text).length
  /-- The texts of the tokens, one after the other, are the text of the line. -/
  texts : (tokens.flatMap fun token => (Line.ofString text).slice token.start token.stop) =
    Tokenizer.shown text

namespace Partition

variable {text : String} {tokens : List Token}

theorem of_empty {names : List String} (shown : Tokenizer.shown text = []) :
    Partition text [⟨0, 0, names⟩] where
  empty := fun _ => rfl
  head := fun _ => ⟨_, rfl, rfl⟩
  nonempty := fun some => absurd shown some
  adjacent := .singleton _
  last := ⟨_, rfl, by rw [shown]; rfl⟩
  inside := by
    intro token mem
    obtain rfl := List.mem_singleton.mp mem
    exact ⟨Nat.le_refl 0, Nat.zero_le _⟩
  texts := by
    rw [List.flatMap_singleton, Line.slice_self, shown]

theorem of_tiles (some : 0 < (Tokenizer.shown text).length)
    (tiles : Tiles 0 (Tokenizer.shown text).length tokens) : Partition text tokens where
  empty := fun none => absurd (List.length_eq_zero_iff.mpr none) (Nat.ne_of_gt some)
  head := fun _ => tiles.head some
  nonempty := fun _ token mem => (tiles.inside mem).2.1
  adjacent := tiles.isChain
  last := by
    obtain ⟨init, token, rfl⟩ := tiles.exists_concat some
    obtain ⟨-, -, ends⟩ := Tiles.concat_iff.mp tiles
    exact ⟨token, List.getLast?_concat, ends⟩
  inside := by
    intro token mem
    obtain ⟨-, nonempty, below⟩ := tiles.inside mem
    exact ⟨Nat.le_of_lt nonempty, Nat.le_trans below (Tokenizer.length_shown_le text)⟩
  texts := by
    rw [tiles.flatMap_slice, Tokenizer.slice_shown]

end Partition

namespace Tokenizer

open Simulation

variable {tokenizer : Tokenizer engine} {library : Library} {text : String}
  {previous : Option Nesting} {reading : LineReading engine}

/-- At the end of a line, its tokens lie side by side up to behind the line feed. -/
theorem Reads.tiled (within : engine.WithinText)
    (run : tokenizer.Reads library text previous false reading) :
    reading.length = (shown text).length + 1 ∧ reading.lineTokens.Tiled ∧
      reading.lineTokens.stop = reading.length := by
  let sim : Simulation engine := diagonal library (· ≤ (terminated text).length)
    (fun tokens => tokens.Tiled ∧ tokens.stop ≤ (terminated text).length)
    (fun _ _ stop le => Nat.le_trans le stop)
    (fun _ _ _ _ inside run => PatternSet.findAt_within within inside run)
    (fun tokens scopes stop keeps inside => by
      refine ⟨keeps.1.add scopes stop, ?_⟩
      rw [LineTokens.stop_add]
      exact Nat.max_le.mpr ⟨keeps.2, inside⟩)
  have resumed : sim.Nestings false (tokenizer.resumed previous) (tokenizer.resumed previous) :=
    .refl (fun _ => rfl) (fun _ => trivial) (fun _ => trivial) _
  obtain ⟨answer, -, alike⟩ := sim.reads rfl
    ⟨rfl, LineTokens.tiled_start, Nat.zero_le _⟩ resumed (Nat.le_refl _) run
  obtain ⟨-, tiled, below⟩ := alike.progress
  refine ⟨alike.length.trans (length_terminated text), tiled, ?_⟩
  exact Nat.le_antisymm (alike.length ▸ below) alike.reached

/-- The tokens of a line make up the line. -/
theorem partition_line (within : engine.WithinText)
    (run : tokenizer.Reads library text previous false reading) :
    Partition text reading.tokens := by
  obtain ⟨length, tiled, reached⟩ := run.tiled within
  simp only [LineReading.tokens]
  rw [length] at reached ⊢
  obtain ⟨empty, tokens⟩ | ⟨some, tiles, -⟩ :=
    tiled.tokens_cases reading.nesting.top.contentScopes reached
  · rw [tokens]
    exact .of_empty (List.length_eq_zero_iff.mp empty)
  · exact .of_tiles some tiles

theorem partition_line_bracketed :
    ∃ tokenizer reading, bracketed = .ok tokenizer ∧
      tokenizer.Reads {} "a<b>" none false reading ∧ Partition "a<b>" reading.tokens := by
  obtain ⟨tokenizer, reading, compiled, run⟩ :=
    exists_ofTexts Grammar.bracketed (fun tokenizer => tokenizer.readLine {} "a<b>" none false)
      (by decide +kernel)
  have reads := reads_of_readLine run
  exact ⟨tokenizer, reading, compiled, reads,
    partition_line Engine.literal_withinText reads⟩

end Tokenizer

end ScopeTokenizer
