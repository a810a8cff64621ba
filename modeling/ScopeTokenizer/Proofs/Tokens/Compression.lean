import ScopeTokenizer.Proofs.Tokenizer.Session
import ScopeTokenizer.Proofs.Tokens.Partition
import ScopeTokenizer.Proofs.Tokens.Runs

/-!
# Two kinds of tokens for one line

A line that is read for tokens with metadata leads to the same nesting as when it is read for
names, and to the runs of equal metadata of those tokens. The metadata of a token with names can
be told from the names alone, since all scopes of a line are entered under one theme.
-/

namespace ScopeTokenizer

open Grammar Pattern Style StyledToken

variable {engine : Engine}

namespace LineTokens

/-- The metadata of text in scopes with the given names, from those of the grammar on. -/
def metadataOf (styler : Styler) (root : ScopePath) (names : List String) : Metadata :=
  (root.enterEach styler names.tail).metadata

theorem metadataOf_names {path root : ScopePath} {styler : Styler}
    (made : path.MadeFrom styler root) : metadataOf styler root path.names = path.metadata :=
  congrArg ScopePath.metadata made.symm

theorem toList_addStyled (tokens : Array StyledToken) (start : Nat) (metadata : Metadata) :
    (addStyled tokens start metadata).toList =
      if tokens.toList.getLast?.any fun last => last.metadata = metadata then tokens.toList
      else tokens.toList ++ [⟨start, metadata⟩] := by
  simp only [addStyled]
  rw [← Array.getLast?_toList]
  split
  · rfl
  · rw [Array.toList_push]

/-- Tokens with names beside their runs, as far as the same position. -/
structure InStep (style : List String → Metadata) (plain styled : LineTokens) : Prop where
  tiled : plain.Tiled
  kind : styled.styled = true
  stop : styled.stop = plain.stop
  runs : Runs style plain.named.toList styled.withStyle.toList plain.stop

variable {style : List String → Metadata} {plain styled : LineTokens}

theorem InStep.start : InStep style { styled := false } { styled := true } :=
  ⟨tiled_start, rfl, rfl, .start⟩

theorem InStep.add (inStep : InStep style plain styled) {scopes : ScopePath}
    (same : style scopes.names = scopes.metadata) (stop : Nat) :
    InStep style (plain.add scopes stop) (styled.add scopes stop) := by
  refine ⟨inStep.tiled.add scopes stop, (styled_add styled scopes stop).trans inStep.kind, ?_, ?_⟩
  · rw [stop_add, stop_add, inStep.stop]
  · have before : ∀ token ∈ plain.named.toList, token.stop ≤ plain.stop :=
      fun token mem => (inStep.tiled.tiles.inside mem).2.2
    simp only [LineTokens.add]
    rw [inStep.stop, inStep.kind, inStep.tiled.plain, if_pos rfl, if_neg Bool.false_ne_true]
    split
    · exact inStep.runs
    · next further =>
      simp only [Array.toList_push, toList_addStyled]
      cases ends : styled.withStyle.toList.getLast? with
      | none =>
        rw [← same]
        refine inStep.runs.begin before (fun last is => ?_) (Nat.lt_of_not_le further)
        cases ends.symm.trans is
      | some last =>
        simp only [Option.any_some, decide_eq_true_eq]
        split
        · next equal =>
          exact inStep.runs.goOn ends (equal.trans same.symm) (Nat.lt_of_not_le further)
        · next different =>
          rw [← same] at different ⊢
          refine inStep.runs.begin before (fun other is => ?_) (Nat.lt_of_not_le further)
          obtain rfl := Option.some.inj (ends.symm.trans is)
          exact different

end LineTokens

/-- Tokens with metadata alone that compress tokens with names. -/
structure Compression (style : List String → Metadata) (length : Nat) (tokens : List Token)
    (runs : List StyledToken) : Prop where
  head : ∃ run, runs.head? = some run ∧ run.start = 0
  increasing : runs.Pairwise fun first second => first.start < second.start
  distinct : runs.IsChain fun first second => first.metadata ≠ second.metadata
  /-- Only on a line without text a token may start where the line feed is. -/
  shown : 0 < length → ∀ run ∈ runs, run.start < length
  /-- Every position of the line lies in a token. -/
  covered : ∀ position, position < length ∨ length = 0 ∧ position = 0 →
    ∃ token ∈ tokens, token.start ≤ position ∧ (position < token.stop ∨ length = 0)
  /-- The run that a position lies in has the metadata of the token that it lies in. -/
  metadata : ∀ token ∈ tokens, ∀ position, token.start ≤ position →
    position < token.stop ∨ length = 0 ∧ position = 0 →
    ∃ run, at? runs position = some run ∧ run.metadata = style token.scopes

namespace LineTokens

variable {style : List String → Metadata} {plain styled : LineTokens}

/-- At the end of a line, the tokens with metadata compress those with names. -/
theorem InStep.compression (inStep : InStep style plain styled) {length : Nat}
    (reached : plain.stop = length + 1) {scopes : ScopePath}
    (same : style scopes.names = scopes.metadata) :
    Compression style length (plain.tokens scopes (length + 1))
      (styled.styledTokens scopes (length + 1)) := by
  have runs := inStep.runs
  rw [reached] at runs
  simp only [LineTokens.styledTokens]
  rcases inStep.tiled.tokens_cases scopes reached with ⟨rfl, tokens⟩ | ⟨text, tiles, cut⟩
  · rw [runs.dropLineFeed_empty, tokens]
    refine ⟨⟨_, rfl, rfl⟩, List.pairwise_singleton _ _, .singleton _, nofun, ?_, ?_⟩
    · rintro position (below | ⟨-, rfl⟩)
      · exact absurd below (Nat.not_lt_zero _)
      · exact ⟨_, List.mem_cons_self, Nat.le_refl 0, .inr rfl⟩
    · rintro token mem position - (below | ⟨-, rfl⟩)
      · obtain rfl := List.mem_singleton.mp mem
        exact absurd below (Nat.not_lt_zero _)
      · obtain rfl := List.mem_singleton.mp mem
        exact ⟨_, rfl, same.symm⟩
  · have shown := runs.dropLineFeed text
      fun token mem => ⟨(tiles.inside mem).2.2, cut token mem⟩
    have some := shown.nonempty text
    rw [if_neg (by simpa using some)]
    refine ⟨?_, shown.increasing, shown.distinct, fun _ => shown.below, ?_, ?_⟩
    · obtain ⟨run, head⟩ := Option.isSome_iff_exists.mp (List.isSome_head?.mpr some)
      exact ⟨run, head, shown.head run head⟩
    · rintro position (below | ⟨none, -⟩)
      · obtain ⟨token, mem, above, inside⟩ := tiles.exists_covering (Nat.zero_le _) below
        exact ⟨token, mem, above, .inl inside⟩
      · omega
    · rintro token mem position above (below | ⟨none, -⟩)
      · exact shown.metadata token mem position above below
      · omega

end LineTokens

namespace Tokenizer

variable {origin tokenizer other : Tokenizer engine} {library : Library} {text : String}
  {previous : Option Nesting}

/-- Readings of a line for the two kinds of tokens. -/
def inStepUpkeep (within : engine.WithinText) (origin : Tokenizer engine) (length : Nat) :
    Upkeep engine origin.styler where
  Stop := (· ≤ length)
  Inside := origin.Styled
  Whole := (· = origin.rootScopes)
  Keeps plain styled := LineTokens.InStep (LineTokens.metadataOf origin.styler origin.rootScopes)
    plain styled ∧ plain.stop ≤ length
  stop_of_le := fun stop le => Nat.le_trans le stop
  stop_of_found := fun inside run => PatternSet.findAt_within within inside run
  enter := fun scope made => ScopePath.MadeFrom.enter made scope
  add := by
    rintro plain styled scopes stop ⟨inStep, below⟩ made inside
    refine ⟨inStep.add (LineTokens.metadataOf_names made) stop, ?_⟩
    rw [LineTokens.stop_add]
    exact Nat.max_le.mpr ⟨below, inside⟩

theorem SameAnswer.compression {within : engine.WithinText} {plain styled : LineReading engine}
    (same : SameAnswer origin library
      (inStepUpkeep within origin (terminated text).length) text plain styled) :
    Compression (LineTokens.metadataOf origin.styler origin.rootScopes) (shown text).length
      plain.tokens styled.styledTokens := by
  obtain ⟨inStep, below⟩ := same.keeps
  have reached : plain.lineTokens.stop = plain.length :=
    Nat.le_antisymm (same.length ▸ below) same.reached
  have made := (same.fits.inside _ plain.nesting.top_mem_frames).2
  simp only [LineReading.tokens, LineReading.styledTokens]
  rw [same.nesting, same.length_eq, same.length, length_terminated]
  rw [same.length, length_terminated] at reached
  exact inStep.compression reached (LineTokens.metadataOf_names made)

/-- A line that is read for metadata alone leads to the same nesting as when it is read for
names, and its tokens compress those with names. The metadata of a token with names is found by
entering its scopes, one by one, from those of the outermost region on. -/
theorem styled_line_compresses (within : engine.WithinText) {known present : List Nesting}
    (session : Session origin known present) (given : ∀ nesting ∈ previous, nesting ∈ present)
    {nestings nestings' : List Nesting} (later : Later library origin known tokenizer nestings)
    (later' : Later library origin known other nestings') :
    ((∃ plain, tokenizer.Reads library text previous false plain) ↔
        ∃ styled, other.Reads library text previous true styled) ∧
      ∀ plain styled, tokenizer.Reads library text previous false plain →
        other.Reads library text previous true styled →
        styled.nesting = plain.nesting ∧
          Compression
            (fun scopes =>
              (plain.nesting.bottom.contentScopes.enterEach tokenizer.styler scopes.tail).metadata)
            (shown text).length plain.tokens styled.styledTokens := by
  obtain ⟨coherent, knows, styles⟩ := session.sound
  obtain ⟨left, -⟩ := later.sound coherent knows
  obtain ⟨right, -⟩ := later'.sound coherent knows
  have fits : origin.Styles (origin.resumed previous) := by
    cases previous with
    | none => exact coherent.fits_initial (ScopePath.madeFrom_self _) rfl
    | some nesting => exact (styles nesting (given nesting rfl)).reset
  have there {plain : LineReading engine}
      (run : tokenizer.Reads library text previous false plain) :=
    left.reads right coherent (inStepUpkeep within origin (terminated text).length) rfl fits true
      ⟨.start, Nat.zero_le _⟩ (Nat.le_refl _) run
  refine ⟨⟨?_, ?_⟩, ?_⟩
  · rintro ⟨plain, run⟩
    obtain ⟨styled, answered, -⟩ := there run
    exact ⟨styled, answered⟩
  · rintro ⟨styled, run⟩
    obtain ⟨plain, answered, -⟩ := right.reads left coherent (scopesUpkeep engine origin.styler
      origin.Styled (· = origin.rootScopes) fun _ scope made => made.enter scope) rfl fits false
      trivial trivial run
    exact ⟨plain, answered⟩
  · intro plain styled run run'
    obtain ⟨answer, answered, same⟩ := there run
    obtain rfl := run'.unique answered
    refine ⟨same.nesting, ?_⟩
    rw [same.fits.content, same.fits.whole, left.styler]
    exact same.compression

theorem styled_line_compresses_bracketed :
    ∃ (tokenizer : Tokenizer Engine.literal) (previous : Nesting)
      (plain styled : LineReading Engine.literal),
      Session tokenizer [previous] [previous] ∧
        tokenizer.Reads {} "a>b" (some previous) false plain ∧
        tokenizer.Reads {} "a>b" (some previous) true styled ∧
        styled.nesting = plain.nesting ∧
        Compression
          (fun scopes =>
            (plain.nesting.bottom.contentScopes.enterEach tokenizer.styler scopes.tail).metadata)
          (shown "a>b").length plain.tokens styled.styledTokens := by
  obtain ⟨tokenizer, ⟨one, plain, styled⟩, compiled, asked⟩ :=
    exists_ofTexts Grammar.bracketed (fun tokenizer => do
      let one ← tokenizer.readLine {} "<" none true
      let plain ← one.tokenizer.readLine {} "a>b" (some one.nesting) false
      let styled ← one.tokenizer.readLine {} "a>b" (some one.nesting) true
      return (one, plain, styled))
      (by decide +kernel)
  simp only [bind, Option.bind_eq_some_iff] at asked
  obtain ⟨_, run₁, _, run₂, _, run₃, asked⟩ := asked
  cases asked
  have started : Session tokenizer [] [] := .compiled compiled
  have once := started.presentLine (by simp) (reads_of_readLine run₁)
  have plainly := reads_of_readLine run₂
  have styledly := reads_of_readLine run₃
  have still : Later {} one.tokenizer [one.nesting] one.tokenizer [one.nesting] := .now
  have given : ∀ nesting ∈ some one.nesting, nesting ∈ [one.nesting] := by simp
  obtain ⟨-, both⟩ := styled_line_compresses Engine.literal_withinText once given still still
  obtain ⟨nesting, compression⟩ := both plain styled plainly styledly
  exact ⟨one.tokenizer, one.nesting, plain, styled, once, plainly, styledly, nesting, compression⟩

end Tokenizer

end ScopeTokenizer
