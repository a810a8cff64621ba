import ScopeTokenizer.Proofs.Reading.Turning
import ScopeTokenizer.Proofs.Tokenizer.Restraint
import ScopeTokenizer.Proofs.Tokenizer.Session

/-!
# Moments of a tokenizer

A tokenizer changes in the middle of a line too, with everything that it has to make for it. Its
moments are all that it can become by that, from the time when its grammar was compiled. Whatever
reading asks a tokenizer for, it asks at a moment.
-/

namespace ScopeTokenizer

open Grammar Pattern Style

variable {engine : Engine}

/-- To be kin of a tokenizer lasts while lines are read. -/
theorem Tokenizer.Coherent.lasting_kin {tokenizer : Tokenizer engine}
    (coherent : tokenizer.Coherent) (library : Library) :
    Lasting library (tokenizer.rules library) (tokenizer.Kin library) where
  rule? := fun kin found => kin.rules_eq found
  collected := fun kin => kin.collected.early coherent
  ruleScanner := fun filled anchors kin found => by
    obtain ⟨-, coherent', same⟩ := kin.coherent.ruleScanner found filled anchors
    exact kin.sameRules coherent' same
  conditionScanner := fun filled anchors kin found => by
    obtain ⟨-, coherent', same⟩ := kin.coherent.conditionScanner found filled anchors
    exact kin.sameRules coherent' same
  enterAll := fun path scopes kin => (kin.enterAll path scopes).2

/-- What a tokenizer may be asked for in the middle of a line, and what it is after it. -/
inductive Tokenizer.Asked (library : Library) (tokenizer : Tokenizer engine) :
    Tokenizer engine → Prop where
  | collected : Asked library tokenizer (tokenizer.collected library).2.1
  | searched {id : RuleId} {rule : Rule} (filled : Option String) (anchors : Anchors) :
      tokenizer.rule? id = some rule →
      Asked library tokenizer (tokenizer.ruleScanner rule filled anchors).2.1
  | checked {id number : RuleId} {name contentName : Option Scope.Template}
      {opening condition : Matching} {inner : Inner} (filled : Option String)
      (anchors : Anchors) :
      tokenizer.rule? id = some ⟨number, name, .lines contentName opening condition inner⟩ →
      Asked library tokenizer
        (tokenizer.conditionScanner number condition.pattern filled anchors).2.1
  | styled (scope : String) : Asked library tokenizer (tokenizer.styleOf scope).2

/-- What a tokenizer can have become at some time. The libraries to include from and the themes may
have been other ones each time. -/
inductive Moment : Tokenizer engine → Prop where
  | compiled {tokenizer : Tokenizer engine} {grammar : GrammarDef} {library : Library}
      {languages : Languages} {theme : Theme} :
      Tokenizer.ofGrammar engine grammar library languages theme = .ok tokenizer →
      Moment tokenizer
  | asked {tokenizer other : Tokenizer engine} (library : Library) :
      Moment tokenizer → tokenizer.Asked library other → Moment other
  | restyled {tokenizer : Tokenizer engine} (theme : Theme) :
      Moment tokenizer → Moment (tokenizer.withTheme theme)

namespace Tokenizer

variable {tokenizer other : Tokenizer engine} {library : Library}

/-- Whatever a coherent tokenizer is asked for, it is coherent. Only collecting its injections
changes its rules. -/
theorem Asked.sound (asked : tokenizer.Asked library other) (coherent : tokenizer.Coherent) :
    other.Coherent ∧
      (other = (tokenizer.collected library).2.1 ∨ tokenizer.SameRules other) := by
  cases asked with
  | collected => exact ⟨(coherent.collected library).1, .inl rfl⟩
  | searched filled anchors found => exact (coherent.ruleScanner found filled anchors).2.imp_right .inr
  | checked filled anchors found =>
    exact (coherent.conditionScanner found filled anchors).2.imp_right .inr
  | styled scope => exact (coherent.styleOf scope).2.imp_right .inr

end Tokenizer

namespace Moment

open Tokenizer

variable {tokenizer : Tokenizer engine}

/-- At any moment, all that a tokenizer keeps is what would be made now. -/
theorem coherent (moment : Moment tokenizer) : tokenizer.Coherent := by
  induction moment with
  | compiled run => exact coherent_ofGrammar run
  | asked library _ asked ih => exact (asked.sound ih).1
  | restyled theme _ ih => exact ih.withTheme theme

theorem enterEach (moment : Moment tokenizer) (library : Library) (path : ScopePath)
    (scopes : List String) :
    Moment (tokenizer.enterEach path scopes).2 := by
  induction scopes generalizing tokenizer path with
  | nil => exact moment
  | cons scope scopes ih => exact ih (moment.asked library (.styled scope)) _

theorem enterAll (moment : Moment tokenizer) (library : Library) (path : ScopePath)
    (scopes : Option String) :
    Moment (tokenizer.enterAll path scopes).2.1 := by
  cases scopes with
  | none => exact moment
  | some text => exact moment.enterEach library path _

/-- To be at a moment lasts while lines are read. -/
theorem lasting (moment : Moment tokenizer) (library : Library) :
    Lasting library (tokenizer.rules library)
      (fun other => Moment other ∧ tokenizer.Kin library other) :=
  have kin := moment.coherent.lasting_kin library
  { rule? := fun held found => kin.rule? held.2 found
    collected := fun held => ⟨held.1.asked library .collected, kin.collected held.2⟩
    ruleScanner := fun filled anchors held found =>
      ⟨held.1.asked library (.searched filled anchors found),
        kin.ruleScanner filled anchors held.2 found⟩
    conditionScanner := fun filled anchors held found =>
      ⟨held.1.asked library (.checked filled anchors found),
        kin.conditionScanner filled anchors held.2 found⟩
    enterAll := fun path scopes held =>
      ⟨held.1.enterAll library path scopes, kin.enterAll path scopes held.2⟩ }

/-- Reading a line leads from one moment to another, in whatever nesting it begins. -/
theorem after_reads (moment : Moment tokenizer) {library : Library} {text : String}
    {previous : Option Nesting} {styled : Bool} {reading : LineReading engine}
    (run : tokenizer.Reads library text previous styled reading) : Moment reading.tokenizer := by
  obtain ⟨steps, run⟩ := run
  obtain ⟨-, after, -⟩ :=
    (moment.lasting library).turns ⟨moment, moment.coherent.descends library⟩ run
  exact after

end Moment

/-- A tokenizer is at a moment before and after each line. -/
theorem Session.moment {tokenizer : Tokenizer engine} {known present : List Nesting}
    (session : Session tokenizer known present) : Moment tokenizer := by
  induction session with
  | compiled run => exact .compiled run
  | started _ ih => exact ih
  | line _ _ run ih => exact ih.after_reads run
  | presentLine _ _ run ih => exact ih.after_reads run
  | restyled theme _ ih => exact ih.restyled theme

end ScopeTokenizer
