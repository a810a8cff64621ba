import Mathlib.Data.List.Forall2
import ScopeTokenizer.Proofs.Grammar.Growth
import ScopeTokenizer.Proofs.Reading.Following

/-!
# Simulations between readings

What two readings of a line have in common is shown once, for any relation that the few
operations on the progress of a reading keep. A `Simulation` lists these: cutting off a token,
asking for a rule, a scanner or the injections, and entering scopes. It follows that reading
a whole line keeps the relation, whatever the grammar makes of the line.

Injections are collected in the middle of reading, and bring further rules with them. A
simulation therefore has two stages, before and after they were collected.
-/

namespace ScopeTokenizer

open Grammar Pattern Style

variable {engine : Engine}

/-- What reading has come to after asking the tokenizer for something. -/
def Progress.answered {α : Type} (progress : Progress engine)
    (answer : α × Tokenizer engine × List Warning) : Progress engine :=
  { progress with tokenizer := answer.2.1, warnings := progress.warnings ++ answer.2.2 }

/-- What reading has come to after a token was cut off. -/
def Progress.cut (progress : Progress engine) (scopes : ScopePath) (stop : Nat) :
    Progress engine :=
  { progress with tokens := progress.tokens.add scopes stop }

/-- What reading has come to after a warning. -/
def Progress.warn (progress : Progress engine) (warning : Warning) : Progress engine :=
  { progress with warnings := progress.warnings ++ [warning] }

/-- A relation between two readings that all operations keep. The stage says whether the
injections were collected. -/
structure Simulation (engine : Engine) where
  library : Library
  /-- Positions where a token may end. -/
  Stop : Nat → Prop
  /-- The scopes that the two readings give to the same text. -/
  Paths : ScopePath → ScopePath → Prop
  /-- What the outermost regions have in common. -/
  Ground : Frame → Frame → Prop
  /-- Rules that both readings know by the same number. -/
  Known : (stage : Bool) → RuleId → Prop
  /-- The rule that both readings know by a number. -/
  Compiled : (stage : Bool) → RuleId → Rule → Prop
  Related : (stage : Bool) → Reading.Between engine
  stop_of_le {n m : Nat} : Stop n → m ≤ n → Stop m
  stop_of_found {scanner : Scanner engine} {line : Line} {position : Nat}
    {found : SetMatch Target} : Stop line.length → scanner.findAt line position = some found →
      Stop found.start ∧ Stop found.stop ∧
        ∀ span, some span ∈ found.captures → Stop span.1 ∧ Stop span.2
  names_eq {a b : ScopePath} : Paths a b → a.names = b.names
  ground_closing {a b : Frame} : Ground a b →
    Ground { a with contentScopes := a.nameScopes } { b with contentScopes := b.nameScopes }
  known_of_early {id : RuleId} : Known false id → Known true id
  related_of_late {p q : Progress engine} : Related true p q → Related false p q
  known_reference {stage : Bool} {id ref : RuleId} {rule : Rule} :
    Compiled stage id rule → ref ∈ rule.references → Known stage ref
  enter {stage : Bool} {p q : Progress engine} {a b : ScopePath} (scopes : Option String) :
    Related stage p q → Paths a b →
      Paths (p.tokenizer.enterAll a scopes).1 (q.tokenizer.enterAll b scopes).1 ∧
        Related stage (p.answered (p.tokenizer.enterAll a scopes))
          (q.answered (q.tokenizer.enterAll b scopes))
  cut {stage : Bool} {p q : Progress engine} {a b : ScopePath} {stop : Nat} :
    Related stage p q → Paths a b → Stop stop → Related stage (p.cut a stop) (q.cut b stop)
  warn {stage : Bool} {p q : Progress engine} (warning : Warning) :
    Related stage p q → Related stage (p.warn warning) (q.warn warning)
  rule? {stage : Bool} {p q : Progress engine} {id : RuleId} :
    Related stage p q → Known stage id →
      p.tokenizer.rule? id = q.tokenizer.rule? id ∧
        ∀ rule, p.tokenizer.rule? id = some rule → Compiled stage id rule
  ruleScanner {stage : Bool} {p q : Progress engine} {id : RuleId} {rule : Rule}
    (filled : Option String) (anchors : Anchors) :
    Related stage p q → Compiled stage id rule →
      (p.tokenizer.ruleScanner rule filled anchors).1 =
          (q.tokenizer.ruleScanner rule filled anchors).1 ∧
        (∀ member ∈ (p.tokenizer.ruleScanner rule filled anchors).1.members,
          ∀ ref, member.label = .rule ref → Known stage ref) ∧
        Related stage (p.answered (p.tokenizer.ruleScanner rule filled anchors))
          (q.answered (q.tokenizer.ruleScanner rule filled anchors))
  conditionScanner {stage : Bool} {p q : Progress engine} {id number : RuleId}
    {name contentName : Option Scope.Template} {opening condition : Matching} {inner : Inner}
    (filled : Option String) (anchors : Anchors) :
    Related stage p q →
    Compiled stage id ⟨number, name, .lines contentName opening condition inner⟩ →
      (p.tokenizer.conditionScanner number condition.pattern filled anchors).1 =
          (q.tokenizer.conditionScanner number condition.pattern filled anchors).1 ∧
        Related stage
          (p.answered (p.tokenizer.conditionScanner number condition.pattern filled anchors))
          (q.answered (q.tokenizer.conditionScanner number condition.pattern filled anchors))
  collected {p q : Progress engine} :
    Related false p q →
      (p.tokenizer.collected library).1 = (q.tokenizer.collected library).1 ∧
        (∀ injection ∈ (p.tokenizer.collected library).1, Known true injection.rule) ∧
        Related true (p.answered (p.tokenizer.collected library))
          (q.answered (q.tokenizer.collected library))

namespace Simulation

variable (sim : Simulation engine) {stage : Bool}

theorem known_late {id : RuleId} (known : sim.Known stage id) : sim.Known true id := by
  cases stage with
  | false => exact sim.known_of_early known
  | true => exact known

theorem related_any {p q : Progress engine} (related : sim.Related true p q) :
    sim.Related stage p q := by
  cases stage with
  | false => exact sim.related_of_late related
  | true => exact related

theorem related_early {p q : Progress engine} (related : sim.Related stage p q) :
    sim.Related false p q := by
  cases stage with
  | false => exact related
  | true => exact sim.related_of_late related

/-- Frames that differ at most in their scopes. -/
structure Frames (stage : Bool) (first second : Frame) : Prop where
  depth : first.depth = second.depth
  rule : first.rule = second.rule
  known : sim.Known stage first.rule
  pattern : first.pattern = second.pattern
  nameScopes : sim.Paths first.nameScopes second.nameScopes
  contentScopes : sim.Paths first.contentScopes second.contentScopes
  tookLineEnd : first.tookLineEnd = second.tookLineEnd
  entered : first.entered = second.entered
  anchor : first.anchor = second.anchor

namespace Frames

variable {sim}

/-- The frames of two regions that were opened alike. -/
theorem opening {id : RuleId} (known : sim.Known stage id) {a b : ScopePath}
    (paths : sim.Paths a b) (tookLineEnd : Bool) (entered anchor : Option Nat) :
    sim.Frames stage
      { rule := id, nameScopes := a, contentScopes := a, tookLineEnd, entered, anchor }
      { rule := id, nameScopes := b, contentScopes := b, tookLineEnd, entered, anchor } :=
  ⟨rfl, rfl, known, rfl, paths, paths, rfl, rfl, rfl⟩

/-- What is known only after the opening may be filled in alike. -/
theorem filled {first second : Frame} (frames : sim.Frames stage first second)
    {a b : ScopePath} (paths : sim.Paths a b) (pattern : Option String) :
    sim.Frames stage { first with contentScopes := a, pattern }
      { second with contentScopes := b, pattern } :=
  { frames with contentScopes := paths, pattern := rfl }

end Frames

/-- Nestings whose frames differ at most in their scopes. -/
inductive Nestings (stage : Bool) : Nesting → Nesting → Prop where
  | root {first second : Frame} : sim.Frames stage first second → sim.Ground first second →
      Nestings stage (.root first) (.root second)
  | above {outer other : Nesting} {first second : Frame} : Nestings stage outer other →
      sim.Frames stage first second →
      Nestings stage (.above outer first) (.above other second)

/-- Cursors at the same place. -/
structure Cursors (stage : Bool) (first second : Cursor) : Prop where
  position : first.position = second.position
  firstLine : first.firstLine = second.firstLine
  anchor : first.anchor = second.anchor
  nesting : sim.Nestings stage first.nesting second.nesting

/-- Outcomes that lead to the same place. -/
inductive Outcomes : Outcome → Outcome → Prop where
  | next {first second : Cursor} : sim.Cursors true first second →
      Outcomes (.next first) (.next second)
  | done {first second : Nesting} : sim.Nestings true first second →
      Outcomes (.done first) (.done second)

namespace Nestings

variable {sim} {first second : Nesting}

theorem top (alike : sim.Nestings stage first second) :
    sim.Frames stage first.top second.top := by
  cases alike with
  | root frames _ => exact frames
  | above _ frames => exact frames

theorem pop (alike : sim.Nestings stage first second) :
    sim.Nestings stage first.pop second.pop := by
  cases alike with
  | root frames ground => exact .root frames ground
  | above outer _ => exact outer

theorem push (alike : sim.Nestings stage first second) {frame other : Frame}
    (frames : sim.Frames stage frame other) :
    sim.Nestings stage (first.push frame) (second.push other) :=
  .above alike { frames with depth := congrArg (· + 1) alike.top.depth }

/-- The closing of a region lies in the scopes of the whole region. -/
theorem closing (alike : sim.Nestings stage first second) :
    sim.Nestings stage (first.withContentScopes first.top.nameScopes)
      (second.withContentScopes second.top.nameScopes) := by
  cases alike with
  | root frames ground =>
    exact .root { frames with contentScopes := frames.nameScopes } (sim.ground_closing ground)
  | above outer frames => exact .above outer { frames with contentScopes := frames.nameScopes }

theorem late (alike : sim.Nestings stage first second) : sim.Nestings true first second := by
  induction alike with
  | root frames ground =>
    exact .root { frames with known := sim.known_late frames.known } ground
  | above _ frames ih => exact .above ih { frames with known := sim.known_late frames.known }

theorem opened {frame other : Frame} (alike : sim.Nestings stage first second)
    (rule : frame.rule = other.rule) (entered : frame.entered = other.entered) :
    first.opened frame = second.opened other := by
  induction alike with
  | root frames _ =>
    simp only [Nesting.opened, frames.rule, frames.entered, rule, entered]
  | above _ frames ih =>
    simp only [Nesting.opened, frames.rule, frames.entered, rule, entered, ih]

theorem levels (alike : sim.Nestings stage first second) :
    List.Forall₂ (sim.Nestings stage) first.levels second.levels := by
  induction alike with
  | root frames ground => exact .cons (.root frames ground) .nil
  | above outer frames ih =>
    simp only [Nesting.levels_above]
    exact List.rel_append ih (.cons (.above outer frames) .nil)

end Nestings

end Simulation

end ScopeTokenizer
