import ScopeTokenizer.Proofs.Reading.Answers

/-!
# Watched readings

What holds wherever reading comes to, also in a capture that is read again, is said by a loop that
looks before each step. It gives no answer as soon as it sees something else, and otherwise takes
the same steps. If there are not enough of them it stays where it is, so that only what it sees can
keep it from an answer.
-/

namespace ScopeTokenizer

open Grammar Pattern Style

variable {engine : Engine} {α : Type}

/-- What is looked at before a step. -/
abbrev Watch (engine : Engine) := Line → Cursor → Library → Progress engine → Bool

namespace Reading

/-- Takes a step, and goes on by a loop. -/
def stepBy (loop : Line → Cursor → Reading engine Nesting) (line : Line) (cursor : Cursor) :
    Reading engine Nesting := do
  match ← step loop line cursor with
  | .done nesting => return nesting
  | .next cursor => loop line cursor

/-- Reads a line from a cursor on, as long as the watch allows it. -/
def watchedFrom (watch : Watch engine) : Nat → Line → Cursor → Reading engine Nesting
  | 0, _, cursor => return cursor.nesting
  | steps + 1, line, cursor => do
    if watch line cursor (← read) (← get) then stepBy (watchedFrom watch steps) line cursor
    else failure

/-- Allows every step. -/
def unwatched : Watch engine := fun _ _ _ _ => true

/-- Whatever the first reading answers, the second one does. -/
def Below (library : Library) (first second : Reading engine α) : Prop :=
  ∀ p a q, first library p = some (a, q) → second library p = some (a, q)

variable {library : Library} {reread other : Line → Cursor → Reading engine Nesting}

/-! ## Comparing loops -/

open Simulation

section

variable (below : ∀ line cursor, Below library (reread line cursor) (other line cursor))
  (line : Line) (cursor : Cursor)

include below

theorem rereads_of_below (stage : Bool) :
    (same library : Simulation engine).Rereads stage reread other := by
  rintro line a b - cursors p _ ⟨rfl, -⟩ nesting q run
  obtain rfl := cursors.eq_of_same
  exact ⟨nesting, q, below line a p nesting q run, nestings_same _ _, rfl, trivial⟩

/-- A step answers what it would with another loop for captures, if that answers more. -/
theorem below_step : Below library (step reread line cursor) (step other line cursor) := by
  intro p outcome q run
  obtain ⟨twin, _, run', outcomes, ⟨rfl, -⟩, -⟩ :=
    follows_step (rereads_of_below below true) (cursors_same true cursor) trivial p p
      ⟨rfl, trivial⟩ outcome q run
  rwa [outcomes.eq_of_same]

theorem below_checkConditions :
    Below library (checkConditions reread line cursor) (checkConditions other line cursor) := by
  intro p start q run
  obtain ⟨twin, _, run', cursors, rfl, -⟩ :=
    follows_checkConditions (rereads_of_below below true) trivial (cursors_same true cursor) p p
      ⟨rfl, trivial⟩ start q run
  rwa [cursors.eq_of_same]

theorem below_stepBy : Below library (stepBy reread line cursor) (stepBy other line cursor) := by
  intro p nesting q run
  obtain ⟨outcome, between, run, rest⟩ := run_bind_eq_some.mp run
  refine run_bind_eq_some.mpr ⟨outcome, between, below_step below _ _ _ _ _ run, ?_⟩
  cases outcome with
  | done nesting => exact rest
  | next cursor => exact below line cursor between nesting q rest

end

theorem run_watchedFrom (watch : Watch engine) (steps : Nat) (line : Line) (cursor : Cursor)
    (p : Progress engine) :
    watchedFrom watch (steps + 1) line cursor library p =
      if watch line cursor library p then stepBy (watchedFrom watch steps) line cursor library p
      else none := by
  change (if watch line cursor library p then _ else failure : Reading engine _) library p = _
  split <;> rfl

theorem below_readFrom (steps : Nat) (line : Line) (cursor : Cursor) :
    Below library (readFrom steps line cursor : Reading engine _)
      (watchedFrom unwatched steps line cursor) := by
  induction steps generalizing line cursor with
  | zero =>
    intro p nesting q run
    cases run
  | succ steps ih =>
    intro p nesting q run
    rw [run_watchedFrom]
    exact below_stepBy ih line cursor p nesting q run

theorem below_watchedFrom (watch : Watch engine) (steps : Nat) (line : Line) (cursor : Cursor) :
    Below library (watchedFrom watch steps line cursor)
      (watchedFrom unwatched steps line cursor) := by
  induction steps generalizing line cursor with
  | zero => exact fun p nesting q run => run
  | succ steps ih =>
    intro p nesting q run
    rw [run_watchedFrom] at run ⊢
    split at run
    · exact below_stepBy ih line cursor p nesting q run
    · cases run

end Reading

namespace Tokenizer

open Reading

/-! ## Lines -/

/-- Reads a line by a loop, given the nesting that the line before it led to, or none if it is the
first one. -/
def readLineBy (tokenizer : Tokenizer engine) (loop : Line → Cursor → Reading engine Nesting)
    (library : Library) (text : String) (previous : Option Nesting) (styled : Bool) :
    Option (LineReading engine) :=
  let line := terminated text
  let cursor : Cursor :=
    { position := 0, firstLine := previous.isNone, nesting := tokenizer.resumed previous }
  let reading : Reading engine Nesting := do loop line (← checkConditions loop line cursor)
  (reading library { tokenizer, tokens := { styled } }).map fun (nesting, progress) =>
    { lineTokens := progress.tokens
      length := line.length
      nesting
      tokenizer := progress.tokenizer
      warnings := progress.warnings }

/-- Reads a line as long as a watch allows it, in at most so many steps. -/
def watchLine (tokenizer : Tokenizer engine) (watch : Watch engine) (steps : Nat)
    (library : Library) (text : String) (previous : Option Nesting) (styled : Bool) :
    Option (LineReading engine) :=
  tokenizer.readLineBy (watchedFrom watch steps) library text previous styled

variable {tokenizer : Tokenizer engine} {library : Library} {text : String}
  {previous : Option Nesting} {styled : Bool} {reading other : LineReading engine}

theorem readLineWithin_eq (tokenizer : Tokenizer engine) (steps : Nat) (library : Library)
    (text : String) (previous : Option Nesting) (styled : Bool) :
    tokenizer.readLineWithin steps library text previous styled =
      tokenizer.readLineBy (readFrom steps) library text previous styled := rfl

theorem readLineBy_of_below {loop more : Line → Cursor → Reading engine Nesting}
    (below : ∀ line cursor, Below library (loop line cursor) (more line cursor))
    (run : tokenizer.readLineBy loop library text previous styled = some reading) :
    tokenizer.readLineBy more library text previous styled = some reading := by
  obtain ⟨⟨nesting, progress⟩, answered, rfl⟩ := Option.map_eq_some_iff.mp run
  obtain ⟨start, between, checked, run⟩ := run_bind_eq_some.mp answered
  refine Option.map_eq_some_iff.mpr ⟨(nesting, progress), run_bind_eq_some.mpr ?_, rfl⟩
  exact ⟨start, between, below_checkConditions below _ _ _ _ _ checked, below _ _ _ _ _ run⟩

/-- What a line is read to while it is watched, it is read to. -/
theorem eq_of_watchLine {watch : Watch engine} {steps : Nat}
    (watched : tokenizer.watchLine watch steps library text previous styled = some reading)
    (run : tokenizer.readLineWithin steps library text previous styled = some other) :
    reading = other := by
  -- The loop that allows every step answers what either of the two does.
  rw [readLineWithin_eq] at run
  have first := readLineBy_of_below (below_watchedFrom watch steps) watched
  have second := readLineBy_of_below (below_readFrom steps) run
  exact Option.some.inj (first.symm.trans second)

end Tokenizer

end ScopeTokenizer
