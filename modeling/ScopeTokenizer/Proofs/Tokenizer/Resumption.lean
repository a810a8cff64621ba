import ScopeTokenizer.Proofs.Pattern.Literal
import ScopeTokenizer.Proofs.Tokenizer.Session

/-!
# Where reading may stop

An editor that reads a text again from a changed line on may stop as soon as a line leads to a
nesting that agrees with the one from before the change. All lines that follow would be read
as before, however many there are.
-/

namespace ScopeTokenizer

open Grammar Pattern Style

variable {engine : Engine}

namespace Tokenizer

/-- Lines are read one after the other, each from where the line before it led to. -/
inductive ReadsAll (library : Library) (styled : Bool) :
    Tokenizer engine → Option Nesting → List String → List (LineReading engine) → Prop where
  | nil {tokenizer : Tokenizer engine} {previous : Option Nesting} :
      ReadsAll library styled tokenizer previous [] []
  | cons {tokenizer : Tokenizer engine} {previous : Option Nesting} {text : String}
      {texts : List String} {reading : LineReading engine} {readings : List (LineReading engine)} :
      tokenizer.Reads library text previous styled reading →
      ReadsAll library styled reading.tokenizer (some reading.nesting) texts readings →
      ReadsAll library styled tokenizer previous (text :: texts) (reading :: readings)

variable {origin tokenizer other : Tokenizer engine} {library : Library} {styled : Bool}
  {previous twin : Option Nesting} {texts : List String}
  {readings others : List (LineReading engine)}

/-- Lines have at most one answer. -/
theorem ReadsAll.unique (first : ReadsAll library styled tokenizer previous texts readings)
    (second : ReadsAll library styled tokenizer previous texts others) : readings = others := by
  induction first generalizing others with
  | nil =>
    cases second
    rfl
  | cons run _ ih =>
    cases second with
    | cons again rest =>
      obtain rfl := run.unique again
      rw [ih rest]

/-- A line that was read twice with the same outcome. -/
structure SameLine (first second : LineReading engine) : Prop where
  tokens : first.tokens = second.tokens
  styledTokens : first.styledTokens = second.styledTokens
  agrees : first.nesting.agrees second.nesting = true

/-- Readings that cut the same tokens. -/
def equalTokens (engine : Engine) (styler : Styler) : Upkeep engine styler :=
  { scopesUpkeep engine styler (fun _ => True) (fun _ => True) fun _ _ _ => trivial with
    Keeps := Eq
    add := by
      rintro first _ scopes stop rfl - -
      rfl }

theorem SameAnswer.sameLine {text : String} {first second : LineReading engine}
    (same : SameAnswer origin library (equalTokens engine origin.styler) text first second) :
    SameLine first second := by
  have tokens : first.lineTokens = second.lineTokens := same.keeps
  constructor
  · simp only [LineReading.tokens]
    rw [tokens, same.nesting, same.length_eq]
  · simp only [LineReading.styledTokens]
    rw [tokens, same.nesting, same.length_eq]
  · rw [same.nesting, Nesting.agrees_iff]

/-- Kin read all lines alike, from nestings that agree. -/
theorem Descends.readsAll (first : Descends origin library false tokenizer)
    (second : Descends origin library false other) (coherent : origin.Coherent)
    (same : previous.map Nesting.reset = twin.map Nesting.reset)
    (knows : origin.Knows (origin.resumed previous))
    (run : ReadsAll library styled tokenizer previous texts readings) :
    ∃ answers, ReadsAll library styled other twin texts answers ∧
      List.Forall₂ SameLine readings answers := by
  induction run generalizing origin other twin with
  | nil => exact ⟨[], .nil, .nil⟩
  | @cons tokenizer previous text texts reading readings run _ ih =>
    obtain ⟨answer, reads, same⟩ := first.reads second coherent (equalTokens engine origin.styler)
      same knows styled rfl trivial run
    have next : (some reading.nesting).map Nesting.reset =
        (some answer.nesting).map Nesting.reset := by
      rw [same.nesting]
    -- The rules that were collected meanwhile are new to the origin, but not to the readings.
    obtain ⟨answers, rest, alike⟩ := ih (same.left.coherent.descends library)
      (same.left.sibling same.right) same.left.coherent next same.fits.reset
    exact ⟨answer :: answers, .cons reads rest, .cons same.sameLine alike⟩

/-- Nestings that agree lead to the same tokens and to nestings that agree, line after line. -/
theorem agreeing_nestings_read_alike {known present : List Nesting}
    (session : Session origin known present) {first second : Nesting} (mem : first ∈ known)
    (mem' : second ∈ known) (agree : first.agrees second = true) {nestings nestings' : List Nesting}
    (later : Later library origin known tokenizer nestings)
    (later' : Later library origin known other nestings') (styled : Bool) (texts : List String) :
    ((∃ readings, ReadsAll library styled tokenizer (some first) texts readings) ↔
        ∃ answers, ReadsAll library styled other (some second) texts answers) ∧
      ∀ readings answers, ReadsAll library styled tokenizer (some first) texts readings →
        ReadsAll library styled other (some second) texts answers →
        List.Forall₂ SameLine readings answers := by
  obtain ⟨coherent, knows, -⟩ := session.sound
  obtain ⟨left, -⟩ := later.sound coherent knows
  obtain ⟨right, -⟩ := later'.sound coherent knows
  have same : (some first).map Nesting.reset = (some second).map Nesting.reset :=
    congrArg some ((Nesting.agrees_iff first second).mp agree)
  have there {readings : List (LineReading engine)}
      (run : ReadsAll library styled tokenizer (some first) texts readings) :=
    left.readsAll right coherent same (knows first mem).reset run
  refine ⟨⟨?_, ?_⟩, ?_⟩
  · rintro ⟨readings, run⟩
    obtain ⟨answers, answered, -⟩ := there run
    exact ⟨answers, answered⟩
  · rintro ⟨answers, run⟩
    obtain ⟨readings, answered, -⟩ :=
      right.readsAll left coherent same.symm (knows second mem').reset run
    exact ⟨readings, answered⟩
  · intro readings answers run run'
    obtain ⟨others, answered, alike⟩ := there run
    rwa [run'.unique answered]

theorem agreeing_nestings_read_alike_bracketed :
    ∃ (tokenizer : Tokenizer Engine.literal) (known : List Nesting) (first second : Nesting),
      Session tokenizer known known ∧ first ∈ known ∧ second ∈ known ∧ first ≠ second ∧
        ∃ readings answers,
          ReadsAll {} false tokenizer (some first) ["a>", "b"] readings ∧
          ReadsAll {} false tokenizer (some second) ["a>", "b"] answers ∧
          List.Forall₂ SameLine readings answers := by
  obtain ⟨tokenizer, ⟨one, two, three, four⟩, compiled, asked⟩ :=
    exists_ofTexts Grammar.bracketed (fun tokenizer => do
      let one ← tokenizer.readLine {} "<" none false
      let two ← one.tokenizer.readLine {} "<><" none false
      let three ← two.tokenizer.readLine {} "a>" (some one.nesting) false
      let four ← three.tokenizer.readLine {} "b" (some three.nesting) false
      if one.nesting.agrees two.nesting = true ∧ one.nesting ≠ two.nesting then
        some (one, two, three, four)
      else none)
      (by decide +kernel)
  simp only [bind, Option.bind_eq_some_iff, Option.ite_none_right_eq_some] at asked
  obtain ⟨_, run₁, _, run₂, _, run₃, _, run₄, ⟨agree, apart⟩, asked⟩ := asked
  cases asked
  have started : Session tokenizer [] [] := .compiled compiled
  have once := started.presentLine (by simp) (reads_of_readLine run₁)
  have twice := once.presentLine (by simp) (reads_of_readLine run₂)
  have newer : two.nesting ∈ [two.nesting, one.nesting] := List.mem_cons_self
  have older : one.nesting ∈ [two.nesting, one.nesting] := List.mem_cons_of_mem _ List.mem_cons_self
  have readings : ReadsAll {} false two.tokenizer (some one.nesting) ["a>", "b"] [three, four] :=
    .cons (reads_of_readLine run₃) (.cons (reads_of_readLine run₄) .nil)
  obtain ⟨both, alike⟩ := agreeing_nestings_read_alike twice older newer agree .now .now false
    ["a>", "b"]
  obtain ⟨answers, answered⟩ := both.mp ⟨_, readings⟩
  exact ⟨two.tokenizer, _, one.nesting, two.nesting, twice, older, newer, apart, _, answers,
    readings, answered, alike _ _ readings answered⟩

end Tokenizer

end ScopeTokenizer
