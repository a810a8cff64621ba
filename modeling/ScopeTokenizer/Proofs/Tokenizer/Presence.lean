import ScopeTokenizer.Proofs.Tokenizer.Succeeding

/-!
# No rule is missing

Injections that cannot be compiled leave places without rules behind, and other rules may refer to
these. Still reading never comes to such a place. Wherever it takes a step, in a line or in a
capture that is read again, the rule of the innermost region is there, and so is the rule that is
found, with the pattern that it was found by.
-/

namespace ScopeTokenizer

open Grammar Pattern Style

variable {engine : Engine}

namespace Reading

/-! ## Being in place -/

/-- Whether a step is in place: the rule of the innermost region is there, its scanner looks only
for what may be sought, and so is what is found. -/
def inPlace : Watch engine := fun line cursor library progress =>
  (progress.tokenizer.rule? cursor.nesting.top.rule).any (fun rule =>
    (progress.tokenizer.ruleScanner rule cursor.nesting.top.pattern cursor.anchors).1.labels.all
      progress.table.seeks) &&
  (nextMatch line cursor library progress).any fun answer =>
    answer.1.all fun found => answer.2.table.seeks found.label

variable {library : Library} {table : RuleTable} {line : Line} {cursor : Cursor}

theorem inPlace_of_sound {p : Progress engine} (sound : p.Sound)
    (holds : p.table.Holds cursor.nesting) : inPlace line cursor library p = true := by
  obtain ⟨rule, compiled⟩ := holds.top
  have searches : Succeeds library p.table (nextMatch line cursor : Reading engine _)
      Succeeds.Sought :=
    Succeeds.nextMatch line holds.top
  obtain ⟨answer, later, run, -, -, sought⟩ := searches p sound (.refl _)
  have aims := sound.moment.coherent.aims_ruleScanner compiled cursor.nesting.top.pattern
    cursor.anchors
  have there : p.tokenizer.rule? cursor.nesting.top.rule = some rule := compiled
  rw [inPlace, there, run, Bool.and_eq_true]
  constructor
  · exact List.all_eq_true.mpr aims.labels
  · cases answer with
    | none => rfl
    | some found => exact sought found rfl

/-! ## Lines -/

namespace Succeeds

/-- The watch allows every step of a line whose open regions have rules. -/
theorem loops_watchedFrom (steps : Nat) :
    Loops library (watchedFrom inPlace steps : Line → Cursor → Reading engine Nesting) := by
  induction steps with
  | zero => exact fun table line cursor holds => .pure fun later grows => holds.mono grows
  | succ steps ih =>
    intro table line cursor holds p sound grows
    let watch : Watch engine := inPlace
    have goesOn : Succeeds library table (stepBy (watchedFrom watch steps) line cursor)
        fun nesting later => later.Holds nesting := by
      refine (step line ih holds).bind fun outcome later _ leads => ?_
      cases outcome with
      | done nesting => exact .pure fun last grows => leads.mono grows
      | next cursor => exact ih later line cursor leads
    rw [run_watchedFrom, if_pos (inPlace_of_sound sound (holds.mono grows))]
    exact goesOn p sound grows

theorem checkLevels {loop : Line → Cursor → Reading engine Nesting} (loops : Loops library loop)
    (line : Line) {levels : List Nesting} (around : ∀ level ∈ levels, table.Holds level)
    (holds : table.Holds cursor.nesting) :
    Succeeds library table (Reading.checkLevels loop line levels cursor)
      fun start later => later.Holds start.nesting := by
  induction levels generalizing table cursor with
  | nil => exact .pure fun later grows => holds.mono grows
  | cons level levels ih =>
    obtain ⟨first, others⟩ := List.forall_mem_cons.mp around
    unfold Reading.checkLevels
    refine (rule? level.top.rule).bind fun rule after grows is => ?_
    have first := first.mono grows
    have others (level : Nesting) (mem : level ∈ levels) := (others level mem).mono grows
    have holds := holds.mono grows
    have pass := ih others holds
    cases rule with
    | none => exact pass
    | some rule =>
      obtain ⟨number, name, kind⟩ := rule
      cases kind with
      | single | container | region | capture => exact pass
      | lines contentName opening condition inner =>
        have scans : Succeeds library after
            (Reading.use fun tokenizer : Tokenizer engine => tokenizer.conditionScanner number
              condition.pattern level.top.pattern cursor.anchors) fun _ _ => True := by
          refine use fun tokenizer moment grows => ?_
          have found := (grows.kept _ (RuleTable.le_size_of_rule? is.symm)).trans is.symm
          have same := (moment.coherent.conditionScanner found level.top.pattern
            cursor.anchors).2.2.compilation
          refine ⟨moment.asked library (.checked _ _ found), ?_, tokenizer.quiet_scanner _ _ _,
            trivial⟩
          rw [same]
          exact .refl _
        refine scans.bind fun scanner middle grows _ => ?_
        cases scanner.findAt line cursor.position with
        | none => exact .pure fun last grows' => (first.mono (grows.trans grows')).pop
        | some found =>
          dsimp only
          refine (cut _ _).bind fun _ second grows' _ => ?_
          have start := first.mono (grows.trans grows')
          refine (readCaptures line loops _ start _).bind fun _ third grows'' _ => ?_
          refine (cut _ _).bind fun _ last grows''' _ => ?_
          have grows := grows.trans (grows'.trans (grows''.trans grows'''))
          refine ih (fun level mem => (others level mem).mono grows) ?_
          rw [Cursor.nesting_advance]
          exact holds.mono grows

end Succeeds

end Reading

namespace Tokenizer

open Reading

variable {tokenizer : Tokenizer engine} {known present : List Nesting}

/-- A watched line has an answer, in however many steps, and nothing is said of rules without
patterns. -/
theorem exists_watchLine (moment : Moment tokenizer) (library : Library) (text : String)
    {previous : Option Nesting}
    (holds : tokenizer.compilation.table.Holds (tokenizer.resumed previous)) (styled : Bool)
    (steps : Nat) :
    ∃ reading, tokenizer.watchLine inPlace steps library text previous styled = some reading ∧
      Warning.Quiet reading.warnings := by
  let line := terminated text
  let cursor : Cursor :=
    { position := 0, firstLine := previous.isNone, nesting := tokenizer.resumed previous }
  have loops : Succeeds.Loops library
      (watchedFrom inPlace steps : Line → Cursor → Reading engine Nesting) :=
    Succeeds.loops_watchedFrom steps
  have whole : Succeeds library tokenizer.compilation.table
      (checkConditions (watchedFrom inPlace steps) line cursor >>=
        fun start => watchedFrom inPlace steps line start) fun _ _ => True :=
    (Succeeds.checkLevels loops line (fun level mem => holds.level mem) holds).bind
      fun start later _ here => (loops later line start here).weaken fun _ _ _ => trivial
  obtain ⟨nesting, progress, run, sound, -⟩ := whole { tokenizer, tokens := { styled } }
    ⟨moment, nofun⟩ (.refl _)
  exact ⟨_, Option.map_eq_some_iff.mpr ⟨(nesting, progress), run, rfl⟩, sound.quiet⟩

/-- At any time, the rules of all regions of a nesting that a grammar has given are there. At any
moment, scanners of rules look only for ends of regions and for rules with patterns. And all steps
of a line are in place, in however many steps it is read: it is read as it would be if reading
ended at the first step that is not. Nothing is said of a rule that has no pattern. -/
theorem steps_in_place (session : Session tokenizer known present) :
    (∀ nesting ∈ known, ∀ frame ∈ nesting.frames, ∃ rule,
      tokenizer.rule? frame.rule = some rule) ∧
    (∀ moment : Tokenizer engine, Moment moment → ∀ id rule, moment.rule? id = some rule →
      ∀ filled anchors,
        Aims moment.compilation.table (moment.ruleScanner rule filled anchors).1) ∧
    ∀ (library : Library) (text : String) (previous : Option Nesting) (styled : Bool)
      (steps : Nat), (∀ nesting ∈ previous, nesting ∈ known) →
      ∃ reading, tokenizer.watchLine inPlace steps library text previous styled = some reading ∧
        (∀ id, Warning.patternless id ∉ reading.warnings) ∧
        ∀ answer, tokenizer.readLineWithin steps library text previous styled = some answer →
          answer = reading := by
  have coherent := session.moment.coherent
  refine ⟨fun nesting mem => (session.wellFormed nesting mem).holds coherent, ?_, ?_⟩
  · exact fun moment at_moment id rule found filled anchors =>
      at_moment.coherent.aims_ruleScanner found filled anchors
  · intro library text previous styled steps given
    have begins := coherent.wellFormed_resumed fun nesting mem =>
      session.wellFormed nesting (given nesting mem)
    obtain ⟨reading, watched, quiet⟩ := exists_watchLine session.moment library text
      (begins.holds coherent) styled steps
    exact ⟨reading, watched, quiet, fun answer run => (eq_of_watchLine watched run).symm⟩

/-- A grammar of pairs, whose first letter is found by reading them again. It is to be injected with
a rule that includes what is missing. -/
def pairs : GrammarDef where
  scopeName := "source"
  patterns := [{ includeName := some "#pair" },
    { beginPattern := some "<"
      endPattern := some ">"
      patterns := [{ includeName := some "#pair" }] }]
  repository := [("pair",
    { matchPattern := some "ab"
      captures := [("0", { patterns := [{ name := some "first", matchPattern := some "a" }] })] })]
  injections := [("source",
    { patterns := [{ matchPattern := some "b" }, { includeName := some "#missing" }] })]

theorem steps_in_place_pairs :
    ∃ (tokenizer : Tokenizer Engine.literal) (nesting : Nesting)
      (reading : LineReading Engine.literal),
      Session tokenizer [nesting] [nesting] ∧ nesting.depth = 2 ∧
      none ∈ tokenizer.compilation.table.slots.toList ∧
      (∀ frame ∈ nesting.frames, ∃ rule, tokenizer.rule? frame.rule = some rule) ∧
      tokenizer.watchLine inPlace 5 {} "ab>" (some nesting) false = some reading ∧
      (∀ id, Warning.patternless id ∉ reading.warnings) ∧
      reading.nesting.depth = 1 ∧
      reading.tokens.any (fun token => token.scopes.contains "first") = true := by
  obtain ⟨tokenizer, ⟨first, second⟩, compiled, asked⟩ := exists_ofTexts pairs
    (fun tokenizer => do
      let first ← tokenizer.readLine {} "<" none false
      let second ← first.tokenizer.readLineWithin 5 {} "ab>" (some first.nesting) false
      if first.nesting.depth = 2 ∧ none ∈ first.tokenizer.compilation.table.slots.toList ∧
          second.nesting.depth = 1 ∧
          second.tokens.any (fun token => token.scopes.contains "first") = true
      then some (first, second) else none)
    (by decide +kernel)
  simp only [bind, Option.bind_eq_some_iff, Option.ite_none_right_eq_some] at asked
  obtain ⟨_, run₁, _, run₂, ⟨two, missing, one, again⟩, asked⟩ := asked
  cases asked
  have started : Session tokenizer [] [] := .compiled compiled
  have session := started.presentLine (by simp) (reads_of_readLine run₁)
  obtain ⟨all, -, lines⟩ := steps_in_place session
  obtain ⟨reading, watched, quiet, same⟩ := lines {} "ab>" (some first.nesting) false 5 (by simp)
  obtain rfl := same _ run₂
  exact ⟨_, first.nesting, _, session, two, missing, all _ List.mem_cons_self, watched, quiet, one,
    again⟩

end Tokenizer

end ScopeTokenizer
