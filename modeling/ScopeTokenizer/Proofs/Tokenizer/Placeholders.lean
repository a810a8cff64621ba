import ScopeTokenizer.Proofs.Pattern.Signs
import ScopeTokenizer.Proofs.Reading.Expecting
import ScopeTokenizer.Proofs.Regex.Tracking
import ScopeTokenizer.Proofs.Tokenizer.Closings
import ScopeTokenizer.Proofs.Tokenizer.Nestings
import ScopeTokenizer.Proofs.Tokenizer.Provenance
import ScopeTokenizer.Proofs.Tokenizer.Targets

/-!
# Patterns that cannot match

An anchor that is inactive, and an end that is missing, are told to the engine as a character that
text hardly ever contains. On a line without this character they do what they are meant to,
whatever the engine is: a pattern that starts with inactive anchors matches nowhere, and a region
whose end is missing is not closed by it. On other lines they may match.
-/

namespace ScopeTokenizer

open Grammar Pattern Style

open Regex (Lead)

variable {engine : Engine} {starts : (Lead → Bool) → String → Bool}

/-! ## Patterns -/

/-- The placeholder does not stand on a line. -/
def Line.Clear (line : Line) : Prop := Anchors.placeholder ∉ line.chars.toList

namespace Line.Clear

variable {line : Line} {here : Nat}

theorem truncate (stop : Nat) (clear : line.Clear) : (line.truncate stop).Clear := by
  intro mem
  simp only [Line.truncate, Line.ofChars, Line.slice] at mem
  rw [List.toList_toArray, Array.toList_extract] at mem
  exact clear (List.mem_of_mem_drop (List.mem_of_mem_take mem))

theorem terminated {text : String} (clear : Anchors.placeholder ∉ text.toList) :
    (Tokenizer.terminated text).Clear := by
  intro mem
  simp only [Tokenizer.terminated] at mem
  split at mem
  · exact clear mem
  · rcases List.mem_append.mp mem with mem | mem
    · exact clear mem
    · cases List.mem_singleton.mp mem

theorem char?_ne (clear : line.Clear) : line.chars[here]? ≠ some Anchors.placeholder :=
  fun is => clear (Array.mem_toList_iff.mpr (Array.mem_of_getElem? is))

end Line.Clear

namespace Tokenizer

variable {line : Line} {position : Nat} {anchors : Anchors} {found : SetMatch Target}

theorem patternText_ofText (text : String) (filled : Option String) (anchors : Anchors) :
    patternText (.ofText text) filled anchors =
      anchors.resolve (filled.getD (Source.ofText text).text) := by
  cases filled with
  | none => exact Source.resolveAnchors_eq text anchors
  | some filled => rfl

section Patterns

variable (laws : engine.StartLaws starts)

include laws

/-- A pattern that starts with inactive anchors matches only in front of the placeholder. -/
theorem placeholder_of_starts {text : String} {filled : Option String} {searchStart : Nat}
    {compiled : engine.Compiled} {chars : Array Char} {here : Nat} {captures : Captures}
    (inactive : starts (Lead.isInactive anchors position)
      (filled.getD (Source.ofText text).text) = true)
    (compiles : engine.compile? true (patternText (.ofText text) filled anchors) = some compiled)
    (later : position ≤ here)
    (matched : engine.matchAt compiled chars searchStart here = some captures) :
    chars[here]? = some Anchors.placeholder := by
  rw [patternText_ofText] at compiles
  exact laws.placeholder_of_isInactive inactive compiles later matched

/-- On a clear line it matches nowhere. -/
theorem not_matches_of_starts {text : String} {filled : Option String} (clear : line.Clear)
    (inactive : starts (Lead.isInactive anchors (min position line.length))
      (filled.getD (Source.ofText text).text) = true) :
    ¬ Matches engine (patternText (.ofText text) filled anchors) line position found :=
  fun ⟨_, _, compiles, above, _, matched, _⟩ =>
    clear.char?_ne (placeholder_of_starts laws inactive compiles above matched)

/-- On a clear line, the end that stands for a missing one matches nowhere. -/
theorem not_matches_noEnd (clear : line.Clear) :
    ¬ Matches engine (patternText (.ofText Compile.noEnd) none anchors) line position found :=
  fun ⟨_, _, compiles, _, _, matched, _⟩ =>
    clear.char?_ne (laws.placeholder_of_literal compiles matched)

end Patterns

/-! ## Searches -/

section Searches

variable (starts : (Lead → Bool) → String → Bool) (tokenizer : Tokenizer engine) (line : Line)
  (cursor : Cursor)

/-- Whether the pattern that a label stands for, in a search inside a rule, is one that is meant not
to match: it is the end of a region whose end is missing, or it starts with inactive anchors. -/
def bars (id : RuleId) (filled : Option String) : Target → Bool
  | .rule ref => ((tokenizer.rule? ref).bind Rule.leading?).any fun source => inactive source.text
  | .closing => (tokenizer.rule? id).any fun rule => rule.kind.isEndless ||
      rule.kind.awaited?.any fun source => inactive (filled.getD source.text)
  | .condition => false
where
  inactive (text : String) : Bool :=
    starts (Lead.isInactive cursor.anchors (min cursor.position line.length)) text

/-- Whether a search inside a rule finds a match, by a pattern that may match. -/
def finds (id : RuleId) (filled : Option String) (found : SetMatch Target) : Bool :=
  tokenizer.answer line cursor id filled == some found &&
    !tokenizer.bars starts line cursor id filled found.label

end Searches

variable (laws : engine.StartLaws starts) {tokenizer : Tokenizer engine} {cursor : Cursor}
  {id : RuleId} {rule : Rule} {filled : Option String}

section Searching

include laws

/-- What matches on a clear line does not start with inactive anchors. -/
theorem inactive_eq_false (clear : line.Clear) {text : String} {filled : Option String}
    (matched : Matches engine (patternText (.ofText text) filled cursor.anchors) line
      cursor.position found) :
    bars.inactive starts line cursor (filled.getD (Source.ofText text).text) = false :=
  Bool.eq_false_iff.mpr fun inactive => not_matches_of_starts laws clear inactive matched

/-- An end that matches on a clear line is not missing. -/
theorem bars_closing (written : tokenizer.compilation.table.Written) (clear : line.Clear)
    (compiled : tokenizer.rule? id = some rule)
    (unfilled : rule.kind.isEndless = true → filled = none) {text : String}
    (among : (.closing, text) ∈ patternsOf tokenizer.compilation.table rule (fillable rule filled)
      cursor.anchors)
    (matched : Matches engine text line cursor.position found) :
    tokenizer.bars starts line cursor id filled .closing = false := by
  obtain ⟨contentName, opening, closing, last, inner, region, rfl⟩ :=
    exists_of_closing_mem_patternsOf among
  obtain ⟨text, source⟩ := written.rule? compiled closing.pattern (.inr (by rw [region]; rfl))
  have own : fillable rule filled = filled := by rw [fillable, region]
  rw [own, source] at matched
  simp only [bars, compiled, Option.any_some, region, RuleKind.awaited?]
  rw [source, inactive_eq_false laws clear matched, Bool.or_false]
  refine Bool.eq_false_iff.mpr fun endless => ?_
  have missing : closing.pattern = .ofText Compile.noEnd := beq_iff_eq.mp endless
  obtain rfl : filled = none := unfilled (by rw [region, endless])
  rw [← source, missing] at matched
  exact not_matches_noEnd laws clear matched

theorem bars_rule (written : tokenizer.compilation.table.Written) (clear : line.Clear)
    {anchored : Option String} {ref : RuleId} {text : String}
    (among : (.rule ref, text) ∈ patternsOf tokenizer.compilation.table rule anchored
      cursor.anchors)
    (matched : Matches engine text line cursor.position found) :
    tokenizer.bars starts line cursor id filled (.rule ref) = false := by
  rcases cases_of_mem_patternsOf among with closing | ⟨⟨number, source⟩, takes, is⟩
  · cases closing
  · obtain ⟨same, rfl⟩ := Prod.mk.inj is
    obtain rfl : ref = number := Target.rule.inj same
    have leading : (tokenizer.rule? ref).bind Rule.leading? = some source :=
      RuleTable.leading?_of_mem_taking takes
    obtain ⟨candidate, known, leads⟩ := Option.bind_eq_some_iff.mp leading
    obtain ⟨text, rfl⟩ := written.rule? known source (.inl leads)
    have matched : Matches engine (patternText (.ofText text) none cursor.anchors) line
      cursor.position found := matched
    have free := inactive_eq_false laws clear matched
    rw [Option.getD_none] at free
    rw [bars, leading, Option.any_some, free]

/-- At any moment, a search on a clear line finds only matches of patterns that may match. Nothing
may have been filled into an end that is missing. -/
theorem finds_of_answer (moment : Moment tokenizer) (clear : line.Clear)
    (unfilled : ∀ rule, tokenizer.rule? id = some rule → rule.kind.isEndless = true →
      filled = none)
    (answered : tokenizer.answer line cursor id filled = some found) :
    tokenizer.finds starts line cursor id filled found = true := by
  obtain ⟨rule, text, compiled, among, matched⟩ := moment.coherent.exists_of_answer answered
  have free : tokenizer.bars starts line cursor id filled found.label = false := by
    cases target : found.label with
    | condition => rfl
    | closing =>
      rw [target] at among
      exact bars_closing laws moment.written clear compiled (unfilled rule compiled) among matched
    | rule ref =>
      rw [target] at among
      exact bars_rule laws moment.written clear among matched
  simp [finds, answered, free]

end Searching

end Tokenizer

/-! ## Steps -/

namespace Reading

/-- Whether the match that comes next, if there is one, was found by a search inside the innermost
region or inside an injection whose selector holds, by a pattern that may match. -/
def unbarred (starts : (Lead → Bool) → String → Bool) : Watch engine :=
  fun line cursor library progress =>
  (nextMatch line cursor library progress).all fun answer => answer.1.all fun found =>
    let top := cursor.nesting.top
    let (injections, collected, _) := progress.tokenizer.collected library
    progress.tokenizer.finds starts line cursor top.rule top.pattern found ||
      injections.any fun injection =>
        injection.matcher.holds cursor.scopes.names &&
          collected.finds starts line cursor injection.rule none found

variable {library : Library} {line : Line} {cursor : Cursor}

theorem unbarred_of_moment (laws : engine.StartLaws starts) {p : Progress engine}
    (moment : Moment p.tokenizer) (clear : line.Clear)
    (unfilled : ∀ rule, p.tokenizer.rule? cursor.nesting.top.rule = some rule →
      rule.kind.isEndless = true → cursor.nesting.top.pattern = none) :
    unbarred starts line cursor library p = true := by
  let Found (found : SetMatch Target) : Prop :=
    p.tokenizer.finds starts line cursor cursor.nesting.top.rule cursor.nesting.top.pattern found =
        true ∨
      ∃ injection ∈ (p.tokenizer.collected library).1,
        injection.matcher.holds cursor.scopes.names = true ∧
          (p.tokenizer.collected library).2.1.finds starts line cursor injection.rule none found =
            true
  have searched : Ensures library p.tokenizer.Likeness (nextMatch line cursor)
      (fun answer _ => ∀ found ∈ answer, Found found) := by
    apply moment.coherent.ensures_nextMatch_of
    · exact fun found answered =>
        .inl (Tokenizer.finds_of_answer laws moment clear unfilled answered)
    · intro injection mem holds found answered
      have later : Moment (p.tokenizer.collected library).2.1 := moment.asked library .collected
      exact .inr ⟨injection, mem, holds,
        Tokenizer.finds_of_answer laws later clear (fun _ _ _ => rfl) answered⟩
  refine Option.all_eq_true _ _ |>.mpr fun (answer, after) run => ?_
  refine Option.all_eq_true _ _ |>.mpr fun found is => ?_
  have next := searched.of_run ⟨moment.coherent, .refl _⟩ run found is
  simp only [Bool.or_eq_true, List.any_eq_true, Bool.and_eq_true]
  exact next

end Reading

/-! ## Lines -/

/-- Nothing is filled into the end of a region if that is missing. -/
def Frame.Unfilled (table : RuleTable) (frame : Frame) : Prop :=
  ∀ rule, table.rule? frame.rule = some rule → rule.kind.isEndless = true → frame.pattern = none

/-- Nothing is filled into ends that are missing. -/
def Nesting.Unfilled (table : RuleTable) (nesting : Nesting) : Prop :=
  ∀ frame ∈ nesting.frames, frame.Unfilled table

/-- An end that is missing refers to no captures. -/
theorem Grammar.RuleKind.hasReference_of_isEndless {kind : RuleKind}
    (endless : kind.isEndless = true) {awaited : Source} (awaits : kind.awaited? = some awaited) :
    awaited.hasReference = false := by
  cases kind with
  | region contentName opening closing last inner =>
    cases awaits
    rw [beq_iff_eq.mp endless]
    rfl
  | single | container | lines | capture => cases endless

theorem Frame.OpenedIn.unfilled {table : RuleTable} {frame around : Frame}
    (opened : frame.OpenedIn table around) : frame.Unfilled table := by
  intro rule found endless
  obtain ⟨other, awaited, compiled, awaits, filled⟩ := opened.rule
  obtain rfl : other = rule := Option.some.inj (compiled.symm.trans found)
  rw [RuleKind.hasReference_of_isEndless endless awaits] at filled
  simpa using filled

namespace Nesting.Unfilled

variable {table : RuleTable} {nesting outer : Nesting} {frame : Frame}

theorem above_iff :
    (Nesting.above outer frame).Unfilled table ↔ outer.Unfilled table ∧ frame.Unfilled table := by
  simp [Unfilled, or_imp, forall_and]

theorem keeps (table : RuleTable) : table.Keeps (Nesting.Unfilled table) where
  turn := by
    intro nesting next unfilled turn
    cases turn with
    | opened opened => exact above_iff.mpr ⟨unfilled, opened.unfilled⟩
    | closing =>
      cases nesting with
      | root frame =>
        intro other mem
        obtain rfl := List.mem_singleton.mp mem
        exact unfilled frame (List.mem_singleton_self _)
      | above outer frame =>
        obtain ⟨outside, top⟩ := above_iff.mp unfilled
        exact above_iff.mpr ⟨outside, top⟩
    | left =>
      cases nesting with
      | root frame => exact unfilled
      | above outer frame => exact (above_iff.mp unfilled).1
  bare := fun unfilled bare => above_iff.mpr ⟨unfilled, fun _ _ _ => bare⟩

end Nesting.Unfilled

theorem Tokenizer.WellFormed.unfilled {tokenizer : Tokenizer engine} {nesting : Nesting}
    (wellFormed : tokenizer.WellFormed nesting) :
    nesting.Unfilled tokenizer.compilation.table := by
  induction wellFormed with
  | root ground =>
    intro frame mem _ _ _
    obtain rfl := List.mem_singleton.mp mem
    exact ground.pattern
  | above _ opened ih => exact Nesting.Unfilled.above_iff.mpr ⟨ih, opened.unfilled⟩

namespace Tokenizer

variable {tokenizer : Tokenizer engine} {known present : List Nesting}

theorem Coherent.unfilled_resumed (coherent : tokenizer.Coherent) (library : Library)
    {previous : Option Nesting} (given : ∀ nesting ∈ previous, tokenizer.WellFormed nesting) :
    (tokenizer.resumed previous).Unfilled (tokenizer.rules library) := by
  obtain ⟨-, grows, -⟩ := coherent.collected library
  obtain ⟨root, -⟩ := tokenizer.collected_root_styler library
  exact ((coherent.wellFormed_resumed given).mono grows root).unfilled

/-- On clear lines, all steps are taken by patterns that may match. -/
theorem allows_unbarred (laws : engine.StartLaws starts) (moment : Moment tokenizer)
    (library : Library) :
    Reading.Allows library (tokenizer.rules library)
      (fun other => Moment other ∧ tokenizer.Kin library other)
      (Nesting.Unfilled (tokenizer.rules library)) Line.Clear (Reading.unbarred starts) where
  lasting := moment.lasting library
  keeps := Nesting.Unfilled.keeps _
  truncate := fun stop clear => clear.truncate stop
  allows := fun clear unfilled held =>
    Reading.unbarred_of_moment laws held.1 clear fun rule found =>
      unfilled _ (Nesting.top_mem_frames _) rule (held.2.rules_eq found)

open Reading

/-- A rule whose end is missing is compiled to an endless one. A pattern that starts with inactive
anchors matches only in front of the placeholder. And on a line without the placeholder, every match
that a step takes was found by a pattern that may match, which is neither the end of an endless rule
nor starts with inactive anchors: such a line is read as it would be if reading ended at the first
step that is not so. So an endless region is closed there at most by the end of an injection. -/
theorem steps_unbarred (laws : engine.StartLaws starts)
    (session : Session tokenizer known present) :
    (∀ (library : Library) (before after : Compilation) (depth : Nat) (around : Surroundings)
      (node : Node) (id : RuleId), node.rule.lacksEnd = true →
      before.numbers.lookup node.site = none →
      before.run library (Compile.rule depth around node) = (.ok id, after) →
      ∃ rule, after.table.rule? id = some rule ∧ rule.kind.isEndless = true) ∧
    (∀ (text : String) (filled : Option String) (firstLine : Bool) (anchor : Option Nat)
      (position : Nat) (line : Line) (compiled : engine.Compiled) (here : Nat)
      (captures : Captures),
      let anchors := Anchors.ofPosition firstLine anchor position
      let start := min position line.length
      starts (Lead.isInactive anchors start) (filled.getD (Source.ofText text).text) = true →
      engine.compile? true (patternText (.ofText text) filled anchors) = some compiled →
      start ≤ here → engine.matchAt compiled line.chars start here = some captures →
      line.chars[here]? = some Anchors.placeholder) ∧
    ∀ (library : Library) (text : String) (previous : Option Nesting) (styled : Bool)
      (steps : Nat) (reading : LineReading engine),
      Anchors.placeholder ∉ text.toList → (∀ nesting ∈ previous, nesting ∈ known) →
      tokenizer.readLineWithin steps library text previous styled = some reading →
      tokenizer.watchLine (unbarred starts) steps library text previous styled = some reading := by
  refine ⟨?_, ?_, ?_⟩
  · exact fun _ _ _ _ _ _ _ lacks fresh run => Compilation.exists_endless lacks fresh run
  · exact fun _ _ _ _ _ _ _ _ _ inactive compiles later matched =>
      placeholder_of_starts laws inactive compiles later matched
  · intro library text previous styled steps reading clear given run
    have moment := session.moment
    have begins := moment.coherent.unfilled_resumed library fun nesting mem =>
      session.wellFormed nesting (given nesting mem)
    exact (allows_unbarred laws moment library).watchLine_of_readLineWithin
      ⟨moment, moment.coherent.descends library⟩ (.terminated clear) begins run

/-- A group that begins with a parenthesis and has no end. In it, a letter is found only behind the
parenthesis. -/
def unendedGroup : RuleDef where
  name := some "group"
  beginPattern := some "\\("
  patterns := [{ name := some "here", matchPattern := some "\\Gb" }]

/-- A grammar of such groups. -/
def unended : GrammarDef where
  scopeName := "source"
  patterns := [unendedGroup]

/-- Reads a line that opens a group, and another one after it. -/
def readUnended (text : String) (tokenizer : Tokenizer Regex.engine) :
    Option (LineReading Regex.engine × LineReading Regex.engine) := do
  let first ← tokenizer.readLine {} "(b" none false
  let second ← first.tokenizer.readLineWithin 5 {} text (some first.nesting) false
  if (first.tokenizer.rule? first.nesting.top.rule).any fun rule => rule.kind.isEndless then
    some (first, second)
  else none

/-- A session in which a group is open that has no end, with a reading of the next line. -/
structure LeftOpen (text : String) (tokenizer : Tokenizer Regex.engine) (nesting : Nesting)
    (reading : LineReading Regex.engine) : Prop where
  session : Session tokenizer [nesting] [nesting]
  endless : (tokenizer.rule? nesting.top.rule).any (fun rule => rule.kind.isEndless) = true
  run : tokenizer.readLineWithin 5 {} text (some nesting) false = some reading

theorem exists_leftOpen (text : String)
    {Q : LineReading Regex.engine → LineReading Regex.engine → Prop}
    [∀ first second, Decidable (Q first second)]
    (answers : ((ofGrammar Regex.engine unended {} {} ⟨none, {}, {}, {}⟩).toOption.bind
      fun tokenizer => (readUnended text tokenizer).filter fun read => Q read.1 read.2).isSome) :
    ∃ first second, LeftOpen text first.tokenizer first.nesting second ∧ Q first second := by
  obtain ⟨tokenizer, ⟨first, second⟩, compiled, asked⟩ := exists_ok_of_isSome answers
  obtain ⟨asked, holds⟩ := Option.filter_eq_some_iff.mp asked
  simp only [readUnended, bind, Option.bind_eq_some_iff, Option.ite_none_right_eq_some] at asked
  obtain ⟨_, opened, _, run, endless, ⟨⟩⟩ := asked
  have started : Session tokenizer [] [] := .compiled compiled
  exact ⟨first, second, ⟨started.presentLine (by simp) (reads_of_readLine opened), endless, run⟩,
    by simpa using holds⟩

theorem steps_unbarred_unended : Regex.engine.StartLaws Regex.starts ∧
    unendedGroup.lacksEnd = true ∧
    (∃ rule, ((Compilation.start unended).run {} (Compile.rule 2 ⟨[], "source"⟩
      ⟨⟨"source", []⟩, unendedGroup⟩)).2.table.rule? 1 = some rule ∧ rule.kind.isEndless = true) ∧
    (∀ found, ¬ Matches Regex.engine
      (patternText (.ofText "\\Gb") none (.ofPosition false none 0)) (terminated "b)b") 0 found) ∧
    ∃ (tokenizer : Tokenizer Regex.engine) (nesting : Nesting)
      (reading : LineReading Regex.engine),
      LeftOpen "b)b" tokenizer nesting reading ∧
      tokenizer.watchLine (unbarred Regex.starts) 5 {} "b)b" (some nesting) false = some reading ∧
      nesting.depth = 2 ∧ reading.nesting.depth = 2 ∧
      reading.tokens.all (fun token => token.scopes = ["source", "group"]) = true := by
  obtain ⟨first, second, given, two, still, inside⟩ := exists_leftOpen "b)b"
    (Q := fun first second => first.nesting.depth = 2 ∧ second.nesting.depth = 2 ∧
      second.tokens.all (fun token => token.scopes = ["source", "group"]) = true)
    (by decide +kernel)
  obtain ⟨compiles, nowhere, lines⟩ := steps_unbarred Regex.startLaws_engine given.session
  refine ⟨Regex.startLaws_engine, rfl, ?_, fun found => ?_, first.tokenizer, first.nesting, second,
    given, lines {} _ _ _ _ _ (by decide +kernel) (by simp) given.run, two, still, inside⟩
  · exact compiles {} (.start unended) _ 2 ⟨[], "source"⟩ ⟨⟨"source", []⟩, unendedGroup⟩ 1 rfl rfl
      (Prod.ext rfl rfl)
  · rintro ⟨regex, here, compiled, above, -, matched, -⟩
    have clear : (terminated "b)b").Clear := .terminated (by decide +kernel)
    exact clear.char?_ne (nowhere "\\Gb" none false none 0 _ regex here _ (by decide +kernel)
      compiled above matched)

/-- A line with the placeholder closes a group that has no end, although there are no injections.
Nor is an inactive anchor without a match there. -/
theorem placeholder_closes :
    unendedGroup.lacksEnd = true ∧
    (∃ (tokenizer : Tokenizer Regex.engine) (nesting : Nesting)
      (reading : LineReading Regex.engine),
      LeftOpen "\uffff" tokenizer nesting reading ∧ (tokenizer.collected {}).1.length = 0 ∧
      nesting.depth = 2 ∧ reading.nesting.depth = 1 ∧
      tokenizer.watchLine (unbarred Regex.starts) 5 {} "\uffff" (some nesting) false ≠
        some reading) ∧
    Regex.starts (Lead.isInactive (.ofPosition false none 0) 0) "\\Gb" = true ∧
    ∃ found, Matches Regex.engine (patternText (.ofText "\\Gb") none (.ofPosition false none 0))
      (terminated "\uffffb") 0 found := by
  refine ⟨rfl, ?_, by decide +kernel, ?_⟩
  · obtain ⟨first, second, given, none, two, one, barred⟩ := exists_leftOpen "\uffff"
      (Q := fun first second => (first.tokenizer.collected {}).1.length = 0 ∧
        first.nesting.depth = 2 ∧ second.nesting.depth = 1 ∧
        (first.tokenizer.watchLine (unbarred Regex.starts) 5 {} "\uffff" (some first.nesting)
          false).isNone = true)
      (by decide +kernel)
    refine ⟨first.tokenizer, first.nesting, second, given, none, two, one, ?_⟩
    rw [Option.isNone_iff_eq_none.mp barred]
    exact nofun
  · have matches_at_start : ((Regex.engine.compile? true
        (patternText (.ofText "\\Gb") none (.ofPosition false none 0))).bind fun regex =>
      Regex.engine.matchAt regex (terminated "\uffffb").chars 0 0).isSome = true := by
      decide +kernel
    obtain ⟨captures, matched⟩ := Option.isSome_iff_exists.mp matches_at_start
    obtain ⟨regex, compiled, at_start⟩ := Option.bind_eq_some_iff.mp matched
    let whole := (captures.head?.join).getD (0, 0)
    exact ⟨⟨.closing, 0, whole.1, whole.2, captures⟩, regex, 0, compiled, by decide, by decide,
      at_start, rfl⟩

end Tokenizer

end ScopeTokenizer
