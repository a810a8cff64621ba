import Mathlib.Logic.Relation
import ScopeTokenizer.Proofs.Reading.Yielding

/-!
# How a line changes a nesting

There are three things that a step does to the nesting: it opens a region, it takes the scopes of
the text inside off a region that it closes, and it leaves a region. A nesting that a line leads to
comes from the one that the line began in by a sequence of these. The nestings in which the text of
a capture is read again are only looked at, and do not count.
-/

namespace ScopeTokenizer

open Grammar Pattern Style

variable {engine : Engine}

/-- The pattern that an open region of a rule waits for: the one that closes it, or the condition
of its lines. Only rules that open regions have one. -/
def Grammar.RuleKind.awaited? : RuleKind → Option Source
  | .region _ _ closing _ _ => some closing.pattern
  | .lines _ _ condition _ => some condition.pattern
  | .single _ | .container _ _ | .capture _ _ => none

/-- A frame as a rule opens it inside another one. -/
structure Frame.OpenedIn (table : RuleTable) (frame around : Frame) : Prop where
  depth : frame.depth = around.depth + 1
  /-- The rule opens regions. Captured text is filled into its pattern just if that refers to
  some. -/
  rule : ∃ rule awaited, table.rule? frame.rule = some rule ∧ rule.kind.awaited? = some awaited ∧
    frame.pattern.isSome = awaited.hasReference
  nameScopes : around.contentScopes.names <+: frame.nameScopes.names
  contentScopes : frame.nameScopes.names <+: frame.contentScopes.names

namespace Nesting

/-- What a step may do to a nesting. -/
inductive Turn (table : RuleTable) : Nesting → Nesting → Prop where
  | opened {nesting : Nesting} {frame : Frame} :
      frame.OpenedIn table nesting.top → Turn table nesting (.above nesting frame)
  | closing (nesting : Nesting) :
      Turn table nesting (nesting.withContentScopes nesting.top.nameScopes)
  | left (nesting : Nesting) : Turn table nesting nesting.pop

/-- What several steps may do to a nesting. -/
abbrev Turns (table : RuleTable) : Nesting → Nesting → Prop := Relation.ReflTransGen (Turn table)

/-- The nestings around a nesting are reached by leaving regions. -/
theorem turns_of_mem_levels {table : RuleTable} {nesting level : Nesting}
    (mem : level ∈ nesting.levels) : Turns table nesting level := by
  induction nesting with
  | root frame =>
    obtain rfl := List.mem_singleton.mp mem
    exact .refl
  | above outer frame ih =>
    rw [levels_above] at mem
    rcases List.mem_append.mp mem with mem | mem
    · exact .head (.left (.above outer frame)) (ih mem)
    · obtain rfl := List.mem_singleton.mp mem
      exact .refl

end Nesting

@[simp] theorem Cursor.nesting_advance (cursor : Cursor) (stop : Nat) :
    (cursor.advance stop).nesting = cursor.nesting := by
  unfold advance
  split <;> rfl

/-- The nesting that a step leads to. -/
def Outcome.nesting : Outcome → Nesting
  | .next cursor => cursor.nesting
  | .done nesting => nesting

namespace Lasting

open Reading Nesting

variable {library : Library} {table : RuleTable} {Held : Tokenizer engine → Prop}
  {reread : Line → Cursor → Reading engine Nesting} {line : Line} {cursor : Cursor}

/-! ## Steps -/

section Steps

/-- A step has turned the nesting of a cursor. -/
abbrev Leads (table : RuleTable) (Held : Tokenizer engine → Prop) (cursor : Cursor)
    (outcome : Outcome) (tokenizer : Tokenizer engine) : Prop :=
  Turns table cursor.nesting outcome.nesting ∧ Held tokenizer

theorem yields_finish {nesting : Nesting} (turns : Turns table cursor.nesting nesting) :
    Yields library Held (finish line nesting) (Leads table Held cursor) := by
  unfold finish
  exact .bind (.of_ensures (.cut _ _)) fun _ => .pure fun _ held => ⟨turns, held⟩

theorem yields_pass (found : SetMatch Target) :
    Yields library Held (Reading.pass line cursor found) (Leads table Held cursor) := by
  unfold Reading.pass
  dsimp only
  generalize (if cursor.position < found.stop then found.stop else cursor.position + 1) = position
  split
  · exact yields_finish .refl
  · exact .pure fun _ held => ⟨.refl, held⟩

variable (lasting : Lasting library table Held)
  (rereads : ∀ line cursor, Yields library Held (reread line cursor) (fun _ => Held))

include lasting rereads

theorem yields_close (found : SetMatch Target) :
    Yields library Held (close reread line cursor found) (Leads table Held cursor) := by
  have closing : Turns table cursor.nesting
      (cursor.nesting.withContentScopes cursor.nesting.top.nameScopes) :=
    .single (.closing _)
  unfold close
  dsimp only
  refine .bind (.of_ensures (.cut _ _)) fun _ => ?_
  refine .bind (lasting.yields_rule? _) fun rule => ?_
  refine .of_right (.of_right ?_)
  refine .bind (lasting.yields_readCaptures rereads _ _ _ _) fun _ => ?_
  refine .bind (.of_ensures (.cut _ _)) fun _ => ?_
  split
  · exact yields_finish closing
  · refine .pure fun _ held => ⟨?_, held⟩
    simp only [Outcome.nesting, Cursor.nesting_advance]
    exact closing.tail (.left _)

/-- The region that is opened lies inside the nesting of the cursor. -/
theorem yields_openRegion (found : SetMatch Target) {rule : Rule} {frame : Frame}
    (opening : Matching) {source : Source} (compiled : table.rule? frame.rule = some rule)
    (awaited : rule.kind.awaited? = some source)
    (name : cursor.scopes.names <+: frame.nameScopes.names) :
    Yields library Held (openRegion reread line cursor found rule frame opening source)
      (Leads table Held cursor) := by
  unfold openRegion
  dsimp only
  refine .bind (lasting.yields_readCaptures rereads _ _ _ _) fun _ => ?_
  refine .bind (.of_ensures (.cut _ _)) fun _ => ?_
  refine .bind (lasting.yields_enter _ _) fun contentScopes => ?_
  refine .of_and fun content => ?_
  have filled : (if source.hasReference then
      some (source.resolveReferences line found.captures) else none).isSome =
        source.hasReference := by
    cases source.hasReference with
    | true => rfl
    | false => rfl
  generalize (if source.hasReference then
    some (source.resolveReferences line found.captures) else none) = pattern at filled ⊢
  have opens : Frame.OpenedIn table
      { frame with depth := cursor.nesting.depth + 1, contentScopes, pattern }
      cursor.nesting.top :=
    ⟨rfl, ⟨rule, source, compiled, awaited, filled⟩, name, content⟩
  split
  · exact yields_finish .refl
  · refine .pure fun _ held => ⟨?_, held⟩
    simp only [Outcome.nesting, Cursor.nesting_advance]
    exact .single (.opened opens)

theorem yields_take (found : SetMatch Target) (id : RuleId) :
    Yields library Held (take reread line cursor found id) (Leads table Held cursor) := by
  unfold take
  dsimp only
  refine .bind (lasting.yields_rule? id) fun rule => ?_
  refine .of_and fun compiled => .of_right ?_
  cases rule with
  | none => exact yields_finish .refl
  | some rule =>
    dsimp only
    split
    · exact yields_pass found
    refine .bind (.of_ensures (.cut _ _)) fun _ => ?_
    refine .bind (lasting.yields_enter _ _) fun scopes => ?_
    refine .of_and fun name => ?_
    obtain ⟨number, ruleName, kind⟩ := rule
    cases kind with
    | single matching =>
      refine .bind (lasting.yields_readCaptures rereads _ _ _ _) fun _ => ?_
      refine .bind (.of_ensures (.cut _ _)) fun _ => ?_
      exact .pure fun _ held => ⟨.refl, held⟩
    | region contentName opening closing last inner =>
      exact lasting.yields_openRegion rereads found opening (compiled _ rfl) rfl name
    | lines contentName opening condition inner =>
      exact lasting.yields_openRegion rereads found opening (compiled _ rfl) rfl name
    | container | capture =>
      exact .bind (.of_ensures (.warn _)) fun _ => yields_finish .refl

theorem yields_step :
    Yields library Held (step reread line cursor) (Leads table Held cursor) := by
  unfold step
  refine .bind (lasting.yields_nextMatch line cursor) fun found => ?_
  cases found with
  | none => exact yields_finish .refl
  | some found =>
    dsimp only
    cases found.label with
    | closing => exact lasting.yields_close rereads found
    | rule id => exact lasting.yields_take rereads found id
    | condition => exact yields_finish .refl

end Steps

/-! ## Lines -/

variable (lasting : Lasting library table Held)

include lasting

theorem yields_readFrom (steps : Nat) (line : Line) (cursor : Cursor) :
    Yields library Held (readFrom steps line cursor)
      (fun nesting tokenizer => Turns table cursor.nesting nesting ∧ Held tokenizer) := by
  induction steps generalizing line cursor with
  | zero => exact .failure
  | succ steps ih =>
    have rereads (line : Line) (cursor : Cursor) :
        Yields library Held (readFrom steps line cursor) (fun _ => Held) :=
      (ih line cursor).post fun _ _ held => held.2
    unfold readFrom
    refine .bind (lasting.yields_step rereads) fun outcome => ?_
    refine .of_and fun turns => ?_
    cases outcome with
    | done nesting => exact .pure fun _ held => ⟨turns, held⟩
    | next next => exact (ih line next).post fun _ _ held => ⟨turns.trans held.1, held.2⟩

/-- The loop may be used to read captures again. -/
theorem yields_reread (steps : Nat) (line : Line) (cursor : Cursor) :
    Yields library Held (readFrom steps line cursor) (fun _ => Held) :=
  (lasting.yields_readFrom steps line cursor).post fun _ _ held => held.2

theorem yields_conditionScanner {id number : RuleId} {name contentName : Option Scope.Template}
    {opening condition : Matching} {inner : Inner} (filled : Option String) (anchors : Anchors) :
    Yields library
      (fun tokenizer => some ⟨number, name, .lines contentName opening condition inner⟩ =
        tokenizer.rule? id ∧ Held tokenizer)
      (use fun tokenizer =>
        tokenizer.conditionScanner number condition.pattern filled anchors)
      (fun _ => Held) :=
  .of_ensures (Ensures.use fun _ given =>
    lasting.conditionScanner filled anchors given.2 given.1.symm)

/-- Looking at the conditions only leaves regions. -/
theorem yields_checkLevels
    (rereads : ∀ line cursor, Yields library Held (reread line cursor) (fun _ => Held))
    (line : Line) {nesting : Nesting} {levels : List Nesting}
    (around : ∀ level ∈ levels, Turns table nesting level) (here : cursor.nesting = nesting) :
    Yields library Held (checkLevels reread line levels cursor)
      (fun start tokenizer => Turns table nesting start.nesting ∧ Held tokenizer) := by
  induction levels generalizing cursor with
  | nil =>
    refine .pure fun _ held => ⟨?_, held⟩
    rw [here]
  | cons level levels ih =>
    obtain ⟨turns, others⟩ := List.forall_mem_cons.mp around
    unfold checkLevels
    refine .bind (lasting.yields_rule? _) fun rule => ?_
    refine .of_right ?_
    cases rule with
    | none => exact .of_right (ih others here)
    | some rule =>
      obtain ⟨number, name, kind⟩ := rule
      cases kind with
      | single | container | region | capture => exact .of_right (ih others here)
      | lines contentName opening condition inner =>
        refine .bind (lasting.yields_conditionScanner _ _) fun scanner => ?_
        cases scanner.findAt line cursor.position with
        | none => exact .pure fun _ held => ⟨turns.tail (.left _), held⟩
        | some found =>
          dsimp only
          refine .bind (.of_ensures (.cut _ _)) fun _ => ?_
          refine .bind (lasting.yields_readCaptures rereads _ _ _ _) fun _ => ?_
          refine .bind (.of_ensures (.cut _ _)) fun _ => ?_
          refine ih others ?_
          rw [Cursor.nesting_advance]
          exact here

/-- Reading a line turns the nesting that it begins in, with a tokenizer of which all that lasts
still holds. -/
theorem turns {tokenizer : Tokenizer engine} (held : Held tokenizer) {text : String}
    {previous : Option Nesting} {styled : Bool} {reading : LineReading engine} {steps : Nat}
    (run : tokenizer.readLineWithin steps library text previous styled = some reading) :
    Turns table (tokenizer.resumed previous) reading.nesting ∧ Held reading.tokenizer := by
  let line := Tokenizer.terminated text
  let cursor : Cursor :=
    { position := 0, firstLine := previous.isNone, nesting := tokenizer.resumed previous }
  have whole : Yields library Held
      (checkConditions (readFrom steps) line cursor >>= fun start => readFrom steps line start)
      (fun nesting tokenizer => Turns table cursor.nesting nesting ∧ Held tokenizer) := by
    refine .bind (lasting.yields_checkLevels (lasting.yields_reread steps) line
      (fun _ => turns_of_mem_levels) rfl)
      fun start => .of_and fun before => ?_
    exact (lasting.yields_readFrom steps line start).post fun _ _ after =>
      ⟨before.trans after.1, after.2⟩
  simp only [Tokenizer.readLineWithin] at run
  obtain ⟨⟨nesting, progress⟩, answered, rfl⟩ := Option.map_eq_some_iff.mp run
  exact whole _ held _ _ answered

end Lasting

end ScopeTokenizer
