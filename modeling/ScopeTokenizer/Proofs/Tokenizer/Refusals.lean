import ScopeTokenizer.Proofs.Reading.Moves
import ScopeTokenizer.Proofs.Tokenizer.Ending
import ScopeTokenizer.Proofs.Tokenizer.Moments

/-!
# What is kept when a match is refused

A step that refuses a match ends the line. What it keeps for the rest of the line, and for the next
one, is the nesting that it began with if the match would have opened a region. If it would have
closed one, that region stays open, but without the scopes of the text inside it. These are lost for
the rest of the region, unless its rule has none.
-/

namespace ScopeTokenizer

open Grammar Pattern Style

variable {engine : Engine}

namespace Nesting

/-- Closing a region makes no difference if the text inside it has no scopes of its own. -/
theorem closing_eq_self {nesting : Nesting}
    (same : nesting.top.contentScopes = nesting.top.nameScopes) : nesting.closing = nesting := by
  rw [closing, ← same]
  cases nesting <;> rfl

theorem agrees_closing_iff (nesting : Nesting) :
    nesting.closing.agrees nesting = true ↔
      nesting.top.contentScopes = nesting.top.nameScopes := by
  constructor
  · intro agrees
    have same := congrArg top ((agrees_iff _ _).mp agrees)
    have content := congrArg Frame.contentScopes same
    cases nesting with
    | root frame => exact content.symm
    | above outer frame => exact content.symm
  · intro same
    rw [closing_eq_self same]
    exact (agrees_iff _ _).mpr rfl

end Nesting

/-- The nesting that is kept when a match is refused. -/
def Cursor.kept (cursor : Cursor) (found : SetMatch Target) : Nesting :=
  match found.label with
  | .closing => cursor.nesting.closing
  | .rule _ | .condition => cursor.nesting

namespace Reading

/-- A match that does not go further, and that a step refuses: it closes the region that was opened
at this position, or opens one by a rule that has opened one here. -/
inductive Refused (rule? : RuleId → Option Rule) (cursor : Cursor) (found : SetMatch Target) :
    Prop where
  | closing : found.label = .closing → found.stop ≤ cursor.position →
      cursor.nesting.top.entered = some cursor.position → Refused rule? cursor found
  | opening {id : RuleId} {rule : Rule} : found.label = .rule id → rule? id = some rule →
      rule.kind.awaited?.isSome = true → found.stop ≤ cursor.position →
      id ∈ cursor.nesting.openedAt cursor.position → Refused rule? cursor found

/-- A match that is refused ends the line. -/
theorem Moves.eq_done_of_refused {rule? : RuleId → Option Rule} {line : Line} {cursor : Cursor}
    {found : SetMatch Target} {outcome : Outcome}
    (moves : Moves engine rule? line cursor found outcome) (refused : Refused rule? cursor found) :
    outcome = .done (cursor.kept found) := by
  unfold Cursor.kept
  cases refused with
  | closing label here entered =>
    rw [label]
    cases moves with
    | refusedClosing => rfl
    | closed _ goes => exact absurd ⟨here, entered⟩ goes
    | condition other => cases label.symm.trans other
    | unknown other | patternless other | passedToEnd other | passed other | single other
    | refusedOpening other | opened other => cases label.symm.trans other
  | @opening id rule label compiled region here mem =>
    have known {other : RuleId} {found' : Rule} (is : found.label = .rule other)
        (compiled' : rule? other = some found') : other = id ∧ found' = rule := by
      cases label.symm.trans is
      exact ⟨rfl, Option.some.inj (compiled'.symm.trans compiled)⟩
    have notSingle : rule.isSingle ≠ true := by
      obtain ⟨number, name, kind⟩ := rule
      cases kind with
      | single => cases region
      | container | region | lines | capture => exact Bool.false_ne_true
    rw [label]
    cases moves with
    | condition | unknown | patternless | passedToEnd | refusedOpening => rfl
    | refusedClosing other | closed other => cases label.symm.trans other
    | passed is compiled' single | single is compiled' single =>
      obtain ⟨-, rfl⟩ := known is compiled'
      exact absurd single notSingle
    | opened is compiled' frames goes =>
      obtain ⟨rfl, rfl⟩ := known is compiled'
      have opened := (Nesting.opened_iff frames.entered cursor.nesting).mpr (frames.number ▸ mem)
      exact absurd ⟨here, opened⟩ goes

/-! ## The loop of steps -/

/-- How far the loop over a line has come. -/
structure State (engine : Engine) where
  /-- How many steps are left. -/
  steps : Nat
  cursor : Cursor
  progress : Progress engine

namespace State

/-- What the loop gives from here on. -/
def run (line : Line) (library : Library) (state : State engine) :
    Option (Nesting × Progress engine) :=
  readFrom state.steps line state.cursor library state.progress

/-- A step leads from one state to another one. -/
def Next (line : Line) (library : Library) (state next : State engine) : Prop :=
  state.steps = next.steps + 1 ∧
    step (readFrom next.steps) line state.cursor library state.progress =
      some (.next next.cursor, next.progress)

/-- Any number of steps do. -/
abbrev Comes (line : Line) (library : Library) : State engine → State engine → Prop :=
  Relation.ReflTransGen (Next line library)

variable {line : Line} {library : Library} {state next : State engine}

theorem Next.run_eq (leads : Next line library state next) :
    state.run line library = next.run line library := by
  obtain ⟨steps, leads⟩ := leads
  rw [run, steps, readFrom, run_bind, leads]
  rfl

/-- What the loop gives in the end, it gives at all the states that it comes by. -/
theorem Comes.run_eq (comes : Comes line library state next) :
    state.run line library = next.run line library := by
  induction comes with
  | refl => rfl
  | tail _ last ih => exact ih.trans last.run_eq

/-- Where a match is refused, the loop gives what is kept, with the rest of the line in the scopes
of the text inside it. -/
theorem eq_kept_of_run {nesting : Nesting} {later between : Progress engine}
    {found : SetMatch Target} (given : state.run line library = some (nesting, later))
    (searched : nextMatch line state.cursor library state.progress = some (some found, between))
    (refused : Refused between.tokenizer.rule? state.cursor found) :
    nesting = state.cursor.kept found ∧
      ∃ tokens : LineTokens, later.tokens = tokens.add nesting.top.contentScopes line.length := by
  obtain ⟨steps, cursor, progress⟩ := state
  cases steps with
  | zero => cases given
  | succ steps =>
    rw [run, readFrom] at given
    obtain ⟨outcome, after, stepped, given⟩ := run_bind_eq_some.mp given
    obtain ⟨finishes, match?, between', searched', moves⟩ := cases_of_step stepped
    cases searched.symm.trans searched'
    rcases moves with ⟨none, -⟩ | ⟨_, same, moves⟩
    · cases none
    · cases same
      obtain rfl := moves.eq_done_of_refused refused
      cases given
      exact ⟨rfl, finishes _ rfl⟩

end State

end Reading

/-! ## Regions without scopes for the text inside -/

/-- If the rule of a frame that was opened on this line has no scopes for the text inside, the frame
has none. -/
def Frame.Plain (table : RuleTable) (frame : Frame) : Prop :=
  frame.entered ≠ none → ∀ rule, table.rule? frame.rule = some rule → rule.contentName = none →
    frame.contentScopes = frame.nameScopes

/-- All frames of a nesting are like that. -/
def Nesting.Plain (table : RuleTable) (nesting : Nesting) : Prop :=
  ∀ frame ∈ nesting.frames, frame.Plain table

namespace Nesting.Plain

variable {table : RuleTable} {nesting : Nesting}

theorem of_reset (table : RuleTable) (nesting : Nesting) : nesting.reset.Plain table := by
  intro frame mem entered
  rw [frames_reset] at mem
  obtain ⟨frame, -, rfl⟩ := List.mem_map.mp mem
  exact absurd rfl entered

theorem level (plain : nesting.Plain table) {level : Nesting} (mem : level ∈ nesting.levels) :
    level.Plain table :=
  fun frame inside => plain frame ((frames_prefix_of_mem_levels mem).subset inside)

theorem pop (plain : nesting.Plain table) : nesting.pop.Plain table := by
  cases nesting with
  | root frame => exact plain
  | above outer frame =>
    refine fun frame mem => plain frame ?_
    rw [frames_above]
    exact List.mem_append_left _ mem

theorem closing (plain : nesting.Plain table) : nesting.closing.Plain table := by
  cases nesting with
  | root frame =>
    refine List.forall_mem_singleton.mpr fun _ _ _ _ => rfl
  | above outer frame =>
    intro frame mem
    change frame ∈ (Nesting.above outer _).frames at mem
    rw [frames_above] at mem
    rcases List.mem_append.mp mem with mem | mem
    · exact plain.pop frame mem
    · obtain rfl := List.mem_singleton.mp mem
      exact fun _ _ _ _ => rfl

theorem push (plain : nesting.Plain table) {frame : Frame} (top : frame.Plain table) :
    (nesting.push frame).Plain table := by
  intro frame mem
  rw [frames_push] at mem
  rcases List.mem_append.mp mem with mem | mem
  · exact plain frame mem
  · obtain rfl := List.mem_singleton.mp mem
    exact top

end Nesting.Plain

namespace Reading

open Tokenizer

variable {library : Library} {line : Line} {cursor next : Cursor} {table : RuleTable}

theorem Frames.plain {found : SetMatch Target} {id : RuleId} {rule : Rule} {frame : Frame}
    (frames : Frames engine line cursor found id rule frame) (compiled : table.rule? id = some rule) :
    frame.Plain table := by
  intro _ other is none
  rw [frames.number, compiled] at is
  cases is
  obtain ⟨tokenizer, content⟩ := frames.contentScopes
  rw [Rule.contentNameFor, none] at content
  exact content

/-- A step keeps a nesting plain. -/
theorem Moves.plain {rule? : RuleId → Option Rule} {found : SetMatch Target}
    (moves : Moves engine rule? line cursor found (.next next))
    (rules : ∀ id rule, rule? id = some rule → table.rule? id = some rule)
    (plain : cursor.nesting.Plain table) : next.nesting.Plain table := by
  cases moves with
  | closed =>
    rw [Cursor.nesting_advance]
    exact plain.closing.pop
  | passed | single => exact plain
  | opened _ compiled frames =>
    rw [Cursor.nesting_advance]
    exact plain.push (frames.plain (rules _ _ compiled))

/-- So do any number of steps. -/
theorem State.Comes.plain {Held : Tokenizer engine → Prop} (lasting : Lasting library table Held)
    {state last : State engine} (comes : State.Comes line library state last)
    (held : Held state.progress.tokenizer) (plain : state.cursor.nesting.Plain table) :
    last.cursor.nesting.Plain table ∧ Held last.progress.tokenizer := by
  induction comes with
  | refl => exact ⟨plain, held⟩
  | @tail before after _ leads ih =>
    obtain ⟨plain, held⟩ := ih
    obtain ⟨-, stepped⟩ := leads
    obtain ⟨-, held'⟩ := lasting.yields_step (lasting.yields_reread after.steps) _ held _ _ stepped
    obtain ⟨-, match?, between, searched, moves⟩ := cases_of_step stepped
    have kin := lasting.yields_nextMatch line before.cursor _ held _ _ searched
    rcases moves with ⟨-, ends⟩ | ⟨found, -, moves⟩
    · cases ends
    · exact ⟨moves.plain (fun _ _ compiled => lasting.rule? kin compiled) plain, held'⟩

/-- Looking at the conditions keeps the nesting, or leaves one of the regions in it. -/
theorem yields_nesting_checkLevels {reread : Line → Cursor → Reading engine Nesting}
    {levels : List Nesting} :
    Yields library (fun _ => True) (checkLevels reread line levels cursor) (fun start _ =>
      start.nesting = cursor.nesting ∨ ∃ level ∈ levels, start.nesting = level.pop) := by
  have any {α : Type} (reading : Reading engine α) :
      Yields library (fun _ => True) reading (fun _ _ => True) := fun _ _ _ _ _ => trivial
  induction levels generalizing cursor with
  | nil => exact .pure fun _ _ => .inl rfl
  | cons level levels ih =>
    have rest (next : Cursor) (same : next.nesting = cursor.nesting) :
        Yields library (fun _ => True) (checkLevels reread line levels next) (fun start _ =>
          start.nesting = cursor.nesting ∨ ∃ other ∈ level :: levels, start.nesting = other.pop) := by
      refine ih.post fun start _ => Or.imp (·.trans same) ?_
      rintro ⟨other, mem, left⟩
      exact ⟨other, List.mem_cons_of_mem _ mem, left⟩
    unfold checkLevels
    refine .bind (any _) fun rule => ?_
    split
    · refine .bind (any _) fun scanner => ?_
      split
      · exact .pure fun _ _ => .inr ⟨level, List.mem_cons_self, rfl⟩
      · refine .bind (any _) fun _ => .bind (any _) fun _ => .bind (any _) fun _ => ?_
        exact rest _ (Cursor.nesting_advance _ _)
    · exact rest _ rfl

theorem yields_checkConditions {Held : Tokenizer engine → Prop}
    (lasting : Lasting library table Held) {reread : Line → Cursor → Reading engine Nesting}
    (rereads : ∀ line cursor, Yields library Held (reread line cursor) (fun _ => Held)) :
    Yields library Held (checkConditions reread line cursor) (fun start tokenizer =>
      (start.nesting = cursor.nesting ∨
        ∃ level ∈ cursor.nesting.levels, start.nesting = level.pop) ∧ Held tokenizer) := by
  have kept : Yields library (fun _ => True) (checkConditions reread line cursor) (fun start _ =>
      start.nesting = cursor.nesting ∨ ∃ level ∈ cursor.nesting.levels, start.nesting = level.pop) :=
    yields_nesting_checkLevels
  have lasts : Yields library Held (checkConditions reread line cursor) (fun start tokenizer =>
      Nesting.Turns table cursor.nesting start.nesting ∧ Held tokenizer) :=
    lasting.yields_checkLevels rereads line (fun _ => Nesting.turns_of_mem_levels) rfl
  intro p held start q run
  exact ⟨kept p trivial start q run, (lasts p held start q run).2⟩

end Reading

/-! ## Lines -/

namespace Tokenizer

open Reading

variable {tokenizer : Tokenizer engine} {library : Library} {text : String}
  {previous : Option Nesting} {styled : Bool} {steps : Nat}

/-- The states that the loop over a line comes by. -/
def ComesBy (tokenizer : Tokenizer engine) (steps : Nat) (library : Library) (text : String)
    (previous : Option Nesting) (styled : Bool) (state : State engine) : Prop :=
  ∃ start progress,
    checkConditions (readFrom steps) (terminated text) (tokenizer.lineStart previous) library
        { tokenizer, tokens := { styled } } = some (start, progress) ∧
      State.Comes (terminated text) library ⟨steps, start, progress⟩ state

/-- What a line is read to is what the loop gives at each state that it comes by. -/
theorem ComesBy.run_eq {state : State engine}
    (comes : tokenizer.ComesBy steps library text previous styled state)
    {reading : LineReading engine}
    (run : tokenizer.readLineWithin steps library text previous styled = some reading) :
    state.run (terminated text) library = some (reading.nesting, reading.progress) := by
  obtain ⟨start, progress, checks, comes⟩ := comes
  simp only [readLineWithin] at run
  obtain ⟨⟨nesting, later⟩, answered, rfl⟩ := Option.map_eq_some_iff.mp run
  obtain ⟨start', progress', checks', reads⟩ := run_bind_eq_some.mp answered
  cases checks.symm.trans checks'
  exact comes.run_eq.symm.trans reads

theorem Coherent.plain_of_comesBy (coherent : tokenizer.Coherent) {state : State engine}
    (comes : tokenizer.ComesBy steps library text previous styled state) :
    state.cursor.nesting.Plain (tokenizer.rules library) ∧
      tokenizer.Kin library state.progress.tokenizer := by
  have lasting := coherent.lasting_kin library
  have begins : (tokenizer.resumed previous).Plain (tokenizer.rules library) := by
    cases previous with
    | none =>
      rw [resumed, coherent.initial_eq]
      exact List.forall_mem_singleton.mpr fun entered => absurd rfl entered
    | some nesting => exact .of_reset _ nesting
  obtain ⟨start, progress, checks, comes⟩ := comes
  obtain ⟨kept, kin⟩ := yields_checkConditions lasting (lasting.yields_reread steps)
    { tokenizer, tokens := { styled } } (coherent.descends library) _ _ checks
  refine comes.plain lasting kin ?_
  rcases kept with same | ⟨level, mem, left⟩
  · exact same ▸ begins
  · exact left ▸ (begins.level mem).pop

/-- Wherever a match is refused, whether on a line or in a capture that is read again, reading ends
with what is kept, and leaves the rest of the text to that. So it is for the lines of a grammar,
from whatever nesting they begin in. What is kept agrees with the nesting before, unless a region is
to be closed in which the text has scopes of its own. If its rule gives it none, the two are equal. -/
theorem refused_match_keeps_region {known present : List Nesting}
    (session : Session tokenizer known present) {reading : LineReading engine}
    (run : tokenizer.readLineWithin steps library text previous styled = some reading) :
    (∀ (line : Line) (state : State engine) (nesting : Nesting) (found : SetMatch Target)
        (between later : Progress engine),
      nextMatch line state.cursor library state.progress = some (some found, between) →
      Refused between.tokenizer.rule? state.cursor found →
      state.run line library = some (nesting, later) →
      nesting = state.cursor.kept found ∧
        ∃ tokens : LineTokens, later.tokens = tokens.add nesting.top.contentScopes line.length) ∧
    ∀ (state : State engine) (found : SetMatch Target) (between : Progress engine),
      tokenizer.ComesBy steps library text previous styled state →
      nextMatch (terminated text) state.cursor library state.progress =
        some (some found, between) →
      Refused between.tokenizer.rule? state.cursor found →
      let top := state.cursor.nesting.top
      reading.nesting = state.cursor.kept found ∧
      (∃ tokens : LineTokens, reading.lineTokens =
        tokens.add reading.nesting.top.contentScopes (terminated text).length) ∧
      (reading.nesting.agrees state.cursor.nesting = true ↔
        (found.label = .closing → top.contentScopes = top.nameScopes)) ∧
      ∀ rule, between.tokenizer.rule? top.rule = some rule → rule.contentName = none →
        reading.nesting = state.cursor.nesting := by
  refine ⟨fun line state nesting found between later searched refused given =>
    state.eq_kept_of_run given searched refused, fun state found between comes searched refused => ?_⟩
  obtain ⟨kept, rest⟩ := State.eq_kept_of_run (comes.run_eq run) searched refused
  obtain ⟨coherent, -, -⟩ := session.sound
  obtain ⟨plain, kin⟩ := coherent.plain_of_comesBy comes
  refine ⟨kept, rest, ?_, fun rule compiled none => ?_⟩
  · rw [kept, Cursor.kept]
    cases label : found.label with
    | closing =>
      rw [Nesting.agrees_closing_iff]
      exact ⟨fun same _ => same, fun same => same rfl⟩
    | rule id | condition => exact ⟨fun _ => nofun, fun _ => (Nesting.agrees_iff _ _).mpr rfl⟩
  · rw [kept, Cursor.kept]
    cases refused with
    | opening label => rw [label]
    | closing label here entered =>
      have kin' := (coherent.lasting_kin library).yields_nextMatch _ _ _ kin _ _ searched
      have opened : state.cursor.nesting.top.entered ≠ Option.none := by
        rw [entered]
        exact Option.some_ne_none _
      rw [label]
      exact Nesting.closing_eq_self (plain _ (Nesting.top_mem_frames _) opened rule
        ((coherent.lasting_kin library).rule? kin' compiled) none)

/-- A grammar of a region that begins and ends without taking text. -/
def emptyRegion (contentName : Option String) : GrammarDef where
  scopeName := "source"
  patterns :=
    [{ name := some "region", contentName, beginPattern := some "", endPattern := some "" }]

/-- The state after the first step over a line, and the closing that is refused there. -/
def firstRefusal (tokenizer : Tokenizer engine) :
    Option (LineReading engine × State engine × SetMatch Target × Progress engine) := do
  let line := terminated "a"
  let reading ← tokenizer.readLineWithin 9 {} "a" none false
  let (start, progress) ← checkConditions (readFrom 9) line (tokenizer.lineStart none) {}
    { tokenizer, tokens := { styled := false } }
  match ← step (readFrom 8) line start {} progress with
  | (.done _, _) => none
  | (.next cursor, progress) =>
    match ← nextMatch line cursor {} progress with
    | (none, _) => none
    | (some found, between) =>
      if found.label = .closing ∧ found.stop ≤ cursor.position ∧
          cursor.nesting.top.entered = some cursor.position then
        some (reading, ⟨8, cursor, progress⟩, found, between)
      else none

theorem refused_of_firstRefusal {tokenizer : Tokenizer engine} {reading : LineReading engine}
    {state : State engine} {found : SetMatch Target} {between : Progress engine}
    (asked : tokenizer.firstRefusal = some (reading, state, found, between)) :
    tokenizer.readLineWithin 9 {} "a" none false = some reading ∧
      tokenizer.ComesBy 9 {} "a" none false state ∧
      nextMatch (terminated "a") state.cursor {} state.progress = some (some found, between) ∧
      Refused between.tokenizer.rule? state.cursor found := by
  simp only [firstRefusal, bind, Option.bind_eq_some_iff] at asked
  obtain ⟨_, run, ⟨start, before⟩, checks, ⟨outcome, progress⟩, stepped, asked⟩ := asked
  cases outcome with
  | done => cases asked
  | next cursor =>
    simp only [Option.bind_eq_some_iff] at asked
    obtain ⟨⟨match?, between'⟩, searched, asked⟩ := asked
    cases match? with
    | none => cases asked
    | some found' =>
      simp only [Option.ite_none_right_eq_some] at asked
      obtain ⟨⟨label, here, entered⟩, asked⟩ := asked
      cases asked
      exact ⟨run, ⟨start, before, checks, .single ⟨rfl, stepped⟩⟩, searched,
        .closing label here entered⟩

theorem refused_match_keeps_region_emptyRegion :
    ∃ (tokenizer : Tokenizer Engine.literal) (reading : LineReading Engine.literal)
      (state : State Engine.literal) (found : SetMatch Target) (between : Progress Engine.literal),
      Session tokenizer [] [] ∧ tokenizer.readLineWithin 9 {} "a" none false = some reading ∧
      tokenizer.ComesBy 9 {} "a" none false state ∧
      nextMatch (terminated "a") state.cursor {} state.progress = some (some found, between) ∧
      Refused between.tokenizer.rule? state.cursor found ∧
      reading.nesting = state.cursor.kept found ∧ reading.nesting = state.cursor.nesting ∧
      reading.nesting.depth = 2 := by
  obtain ⟨tokenizer, ⟨reading, state, found, between⟩, compiled, asked⟩ :=
    exists_ofTexts (emptyRegion none) (fun tokenizer => do
      let answer ← tokenizer.firstRefusal
      let rule ← answer.2.2.2.tokenizer.rule? answer.2.1.cursor.nesting.top.rule
      if rule.contentName = none ∧ answer.1.nesting.depth = 2 then some answer else none)
    (by decide +kernel)
  simp only [bind, Option.bind_eq_some_iff, Option.ite_none_right_eq_some] at asked
  obtain ⟨_, refusal, rule, is, ⟨plain, depth⟩, asked⟩ := asked
  cases asked
  obtain ⟨run, comes, searched, refused⟩ := refused_of_firstRefusal refusal
  have session : Session tokenizer [] [] := .compiled compiled
  obtain ⟨kept, -, -, exactly⟩ :=
    (refused_match_keeps_region session run).2 state found between comes searched refused
  exact ⟨tokenizer, reading, state, found, between, session, run, comes, searched, refused, kept,
    exactly rule is plain, depth⟩

/-- A region whose text has scopes of its own, and that stays open without them. -/
theorem refused_closing_drops_content :
    ∃ (tokenizer : Tokenizer Engine.literal) (reading : LineReading Engine.literal)
      (state : State Engine.literal) (found : SetMatch Target) (between : Progress Engine.literal),
      Session tokenizer [] [] ∧ tokenizer.readLineWithin 9 {} "a" none false = some reading ∧
      tokenizer.ComesBy 9 {} "a" none false state ∧
      nextMatch (terminated "a") state.cursor {} state.progress = some (some found, between) ∧
      Refused between.tokenizer.rule? state.cursor found ∧
      state.cursor.nesting.top.contentScopes.names = ["source", "region", "inside"] ∧
      reading.nesting.top.contentScopes.names = ["source", "region"] ∧
      reading.nesting.agrees state.cursor.nesting = false := by
  obtain ⟨tokenizer, ⟨reading, state, found, between⟩, compiled, asked⟩ :=
    exists_ofTexts (emptyRegion (some "inside")) (fun tokenizer => do
      let answer ← tokenizer.firstRefusal
      let before := answer.2.1.cursor.nesting
      let after := answer.1.nesting
      if before.top.contentScopes.names = ["source", "region", "inside"] ∧
          after.top.contentScopes.names = ["source", "region"] ∧ after.agrees before = false then
        some answer
      else none)
    (by decide +kernel)
  simp only [bind, Option.bind_eq_some_iff, Option.ite_none_right_eq_some] at asked
  obtain ⟨_, refusal, ⟨before, after, differ⟩, asked⟩ := asked
  cases asked
  obtain ⟨run, comes, searched, refused⟩ := refused_of_firstRefusal refusal
  exact ⟨tokenizer, reading, state, found, between, .compiled compiled, run, comes, searched,
    refused, before, after, differ⟩

end Tokenizer

end ScopeTokenizer
