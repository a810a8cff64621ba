import ScopeTokenizer.Proofs.Reading.Turning

/-!
# What a step does

All that a single step can do, by the match that it has found. Most steps go on: they pass over the
match, open a region, or close one. A step ends the line if there is no match, or none that leads
anywhere. Two matches are refused so that reading does not go round for ever: one that closes a
region at the position at which that was opened, and one that opens a region where its rule has
opened one already.
-/

namespace ScopeTokenizer

open Grammar Pattern Style

variable {engine : Engine}

/-- The nesting when its innermost region is closed, before that is left. -/
def Nesting.closing (nesting : Nesting) : Nesting :=
  nesting.withContentScopes nesting.top.nameScopes

@[simp] theorem Nesting.top_withContentScopes (nesting : Nesting) (scopes : ScopePath) :
    (nesting.withContentScopes scopes).top = { nesting.top with contentScopes := scopes } := by
  cases nesting <;> rfl

@[simp] theorem Nesting.top_closing (nesting : Nesting) :
    nesting.closing.top = { nesting.top with contentScopes := nesting.top.nameScopes } :=
  nesting.top_withContentScopes _

/-- Where a match that may be empty is passed over to. -/
def Cursor.passing (cursor : Cursor) (stop : Nat) : Nat :=
  if cursor.position < stop then stop else cursor.position + 1

/-- If a step ends a line, the rest of that lies in the scopes of the text inside the region that is
kept. -/
def Outcome.Finishes (line : Line) (outcome : Outcome) (tokens : LineTokens) : Prop :=
  ∀ nesting, outcome = .done nesting →
    ∃ before : LineTokens, tokens = before.add nesting.top.contentScopes line.length

namespace Reading

/-- A frame as a rule opens it for a match. -/
structure Frames (engine : Engine) (line : Line) (cursor : Cursor) (found : SetMatch Target)
    (id : RuleId) (rule : Rule) (frame : Frame) : Prop where
  number : frame.rule = id
  entered : frame.entered = some cursor.position
  anchor : frame.anchor = cursor.anchor
  tookLineEnd : frame.tookLineEnd = (found.stop == line.length)
  pattern : ∃ awaited, rule.kind.awaited? = some awaited ∧ frame.pattern =
    if awaited.hasReference then some (awaited.resolveReferences line found.captures) else none
  nameScopes : ∃ tokenizer : Tokenizer engine, frame.nameScopes =
    (tokenizer.enterAll cursor.scopes (rule.nameFor line found.captures)).1
  contentScopes : ∃ tokenizer : Tokenizer engine, frame.contentScopes =
    (tokenizer.enterAll frame.nameScopes (rule.contentNameFor line found.captures)).1

/-- What a step that has found a match leads to. The rules are those of the tokenizer then. -/
inductive Moves (engine : Engine) (rule? : RuleId → Option Rule) (line : Line) (cursor : Cursor)
    (found : SetMatch Target) : Outcome → Prop where
  /-- A condition is never among the patterns inside a line. -/
  | condition : found.label = .condition → Moves engine rule? line cursor found (.done cursor.nesting)
  | refusedClosing : found.label = .closing → found.stop ≤ cursor.position →
      cursor.nesting.top.entered = some cursor.position →
      Moves engine rule? line cursor found (.done cursor.nesting.closing)
  | closed : found.label = .closing →
      ¬(found.stop ≤ cursor.position ∧ cursor.nesting.top.entered = some cursor.position) →
      Moves engine rule? line cursor found (.next
        (Cursor.advance
          { cursor with nesting := cursor.nesting.closing.pop, anchor := cursor.nesting.top.anchor }
          found.stop))
  | unknown {id : RuleId} : found.label = .rule id → rule? id = none →
      Moves engine rule? line cursor found (.done cursor.nesting)
  | patternless {id : RuleId} {rule : Rule} : found.label = .rule id → rule? id = some rule →
      rule.leading? = none → Moves engine rule? line cursor found (.done cursor.nesting)
  | passedToEnd {id : RuleId} {rule : Rule} : found.label = .rule id → rule? id = some rule →
      rule.isSingle = true → found.start = found.stop → line.length ≤ cursor.passing found.stop →
      Moves engine rule? line cursor found (.done cursor.nesting)
  | passed {id : RuleId} {rule : Rule} : found.label = .rule id → rule? id = some rule →
      rule.isSingle = true → found.start = found.stop → cursor.passing found.stop < line.length →
      Moves engine rule? line cursor found
        (.next { cursor with position := cursor.passing found.stop, firstLine := false })
  | single {id : RuleId} {rule : Rule} : found.label = .rule id → rule? id = some rule →
      rule.isSingle = true → found.start ≠ found.stop →
      Moves engine rule? line cursor found
        (.next { cursor with position := found.stop, firstLine := false })
  | refusedOpening {id : RuleId} {rule : Rule} {frame : Frame} : found.label = .rule id →
      rule? id = some rule → Frames engine line cursor found id rule frame →
      found.stop ≤ cursor.position → cursor.nesting.opened frame = true →
      Moves engine rule? line cursor found (.done cursor.nesting)
  | opened {id : RuleId} {rule : Rule} {frame : Frame} : found.label = .rule id →
      rule? id = some rule → Frames engine line cursor found id rule frame →
      ¬(found.stop ≤ cursor.position ∧ cursor.nesting.opened frame = true) →
      Moves engine rule? line cursor found (.next
        (Cursor.advance
          { cursor with nesting := .push cursor.nesting frame, anchor := some found.stop }
          found.stop))

variable {reread : Line → Cursor → Reading engine Nesting} {line : Line} {cursor : Cursor}
  {found : SetMatch Target} {library : Library} {rule? : RuleId → Option Rule}
  {progress later : Progress engine} {outcome : Outcome}

theorem exists_of_finish {nesting : Nesting}
    (run : finish line nesting library progress = some (outcome, later)) :
    outcome = .done nesting ∧ outcome.Finishes line later.tokens := by
  cases run
  refine ⟨rfl, fun nesting is => ?_⟩
  cases is
  exact ⟨progress.tokens, rfl⟩

theorem eq_enterAll_of_enter {path inner : ScopePath} {scopes : Option String}
    (run : enter path scopes library progress = some (inner, later)) :
    inner = (progress.tokenizer.enterAll path scopes).1 := by
  cases run
  rfl

theorem moves_of_close (label : found.label = .closing)
    (run : close reread line cursor found library progress = some (outcome, later)) :
    Moves engine rule? line cursor found outcome ∧ outcome.Finishes line later.tokens := by
  unfold close at run
  dsimp only at run
  obtain ⟨_, _, -, run⟩ := run_bind_eq_some.mp run
  obtain ⟨_, _, -, run⟩ := run_bind_eq_some.mp run
  obtain ⟨_, _, -, run⟩ := run_bind_eq_some.mp run
  obtain ⟨_, _, -, run⟩ := run_bind_eq_some.mp run
  rw [Nesting.top_withContentScopes] at run
  split at run
  · next refused =>
    obtain ⟨rfl, finishes⟩ := exists_of_finish run
    exact ⟨.refusedClosing label refused.1 refused.2, finishes⟩
  · next goes =>
    cases run
    exact ⟨.closed label goes, nofun⟩

theorem moves_of_pass {id : RuleId} {rule : Rule} (label : found.label = .rule id)
    (compiled : rule? id = some rule) (single : rule.isSingle = true)
    (empty : found.start = found.stop)
    (run : Reading.pass line cursor found library progress = some (outcome, later)) :
    Moves engine rule? line cursor found outcome ∧ outcome.Finishes line later.tokens := by
  have passing : (if cursor.position < found.stop then found.stop else cursor.position + 1) =
      cursor.passing found.stop := rfl
  unfold Reading.pass at run
  rw [passing] at run
  split at run
  · next ends =>
    obtain ⟨rfl, finishes⟩ := exists_of_finish run
    exact ⟨.passedToEnd label compiled single empty ends, finishes⟩
  · next goes =>
    cases run
    exact ⟨.passed label compiled single empty (Nat.lt_of_not_le goes), nofun⟩

theorem moves_of_openRegion {id : RuleId} {rule : Rule} {frame : Frame} {opening : Matching}
    {awaited : Source} (label : found.label = .rule id) (compiled : rule? id = some rule)
    (region : rule.kind.awaited? = some awaited) (is : frame.rule = id)
    (entered : frame.entered = some cursor.position) (anchor : frame.anchor = cursor.anchor)
    (lineEnd : frame.tookLineEnd = (found.stop == line.length))
    (name : ∃ tokenizer : Tokenizer engine, frame.nameScopes =
      (tokenizer.enterAll cursor.scopes (rule.nameFor line found.captures)).1)
    (run : openRegion reread line cursor found rule frame opening awaited library progress =
      some (outcome, later)) :
    Moves engine rule? line cursor found outcome ∧ outcome.Finishes line later.tokens := by
  unfold openRegion at run
  dsimp only at run
  obtain ⟨_, _, -, run⟩ := run_bind_eq_some.mp run
  obtain ⟨_, _, -, run⟩ := run_bind_eq_some.mp run
  obtain ⟨contentScopes, _, content, run⟩ := run_bind_eq_some.mp run
  have frames : Frames engine line cursor found id rule { frame with
      contentScopes
      pattern := if awaited.hasReference then
        some (awaited.resolveReferences line found.captures) else none } :=
    ⟨is, entered, anchor, lineEnd, ⟨awaited, region, rfl⟩, name, _, eq_enterAll_of_enter content⟩
  generalize (if awaited.hasReference then
    some (awaited.resolveReferences line found.captures) else none) = pattern at frames run
  split at run
  · next refused =>
    obtain ⟨rfl, finishes⟩ := exists_of_finish run
    exact ⟨.refusedOpening label compiled frames refused.1 refused.2, finishes⟩
  · next goes =>
    cases run
    exact ⟨.opened label compiled frames goes, nofun⟩

theorem moves_of_take {id : RuleId} (label : found.label = .rule id)
    (run : take reread line cursor found id library progress = some (outcome, later)) :
    Moves engine progress.tokenizer.rule? line cursor found outcome ∧
      outcome.Finishes line later.tokens := by
  unfold take at run
  dsimp only at run
  obtain ⟨rule, _, asked, run⟩ := run_bind_eq_some.mp run
  cases asked
  cases compiled : progress.tokenizer.rule? id with
  | none =>
    rw [compiled] at run
    obtain ⟨rfl, finishes⟩ := exists_of_finish run
    exact ⟨.unknown label compiled, finishes⟩
  | some rule =>
    rw [compiled] at run
    dsimp only at run
    split at run
    · next passes => exact moves_of_pass label compiled passes.2 passes.1 run
    next whole =>
    obtain ⟨_, _, -, run⟩ := run_bind_eq_some.mp run
    obtain ⟨scopes, _, entered, run⟩ := run_bind_eq_some.mp run
    have name : ∃ tokenizer : Tokenizer engine, scopes =
        (tokenizer.enterAll cursor.scopes (rule.nameFor line found.captures)).1 :=
      ⟨_, eq_enterAll_of_enter entered⟩
    obtain ⟨number, ruleName, kind⟩ := rule
    cases kind with
    | single matching =>
      obtain ⟨_, _, -, run⟩ := run_bind_eq_some.mp run
      obtain ⟨_, _, -, run⟩ := run_bind_eq_some.mp run
      cases run
      exact ⟨.single label compiled rfl fun empty => whole ⟨empty, rfl⟩, nofun⟩
    | region contentName opening closing last inner =>
      exact moves_of_openRegion label compiled rfl rfl rfl rfl rfl name run
    | lines contentName opening condition inner =>
      exact moves_of_openRegion label compiled rfl rfl rfl rfl rfl name run
    | container | capture =>
      obtain ⟨_, _, -, run⟩ := run_bind_eq_some.mp run
      obtain ⟨rfl, finishes⟩ := exists_of_finish run
      exact ⟨.patternless label compiled rfl, finishes⟩

/-- All that a step can do: it finds no match and ends the line, or it finds one that moves it. -/
theorem cases_of_step (run : step reread line cursor library progress = some (outcome, later)) :
    outcome.Finishes line later.tokens ∧ ∃ match? between,
      nextMatch line cursor library progress = some (match?, between) ∧
      (match? = none ∧ outcome = .done cursor.nesting ∨ ∃ found, match? = some found ∧
        Moves engine between.tokenizer.rule? line cursor found outcome) := by
  unfold step at run
  obtain ⟨match?, between, searched, run⟩ := run_bind_eq_some.mp run
  cases match? with
  | none =>
    obtain ⟨rfl, finishes⟩ := exists_of_finish run
    exact ⟨finishes, none, between, searched, .inl ⟨rfl, rfl⟩⟩
  | some found =>
    have moves : Moves engine between.tokenizer.rule? line cursor found outcome ∧
        outcome.Finishes line later.tokens := by
      dsimp only at run
      cases label : found.label with
      | closing =>
        rw [label] at run
        exact moves_of_close label run
      | rule id =>
        rw [label] at run
        exact moves_of_take label run
      | condition =>
        rw [label] at run
        obtain ⟨rfl, finishes⟩ := exists_of_finish run
        exact ⟨.condition label, finishes⟩
    exact ⟨moves.2, some found, between, searched, .inr ⟨found, rfl, moves.1⟩⟩

end Reading

end ScopeTokenizer
