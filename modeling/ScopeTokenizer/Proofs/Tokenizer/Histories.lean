import ScopeTokenizer.Proofs.Tokenizer.Moments
import ScopeTokenizer.Proofs.Tokenizer.Resumption

/-!
# Histories

A tokenizer keeps scanners, styles and injections, and which of them it keeps depends on all that
happened to it before. None of this shows: it answers what it would answer if it had to make
everything now, and two tokenizers of one origin read a line alike, whatever they have read before.
-/

namespace ScopeTokenizer

open Grammar Pattern Style

variable {engine : Engine}

/-- What can happen to a tokenizer while the library to include from stays the same, also in the
middle of a line. It has a present theme, and has given some nestings. -/
inductive History (library : Library) (origin : Tokenizer engine) :
    Theme → Tokenizer engine → List Nesting → Prop where
  | now : History library origin origin.styler.theme origin []
  | started {theme : Theme} {tokenizer : Tokenizer engine} {given : List Nesting} :
      History library origin theme tokenizer given →
      History library origin theme (tokenizer.styleOf tokenizer.scopeName).2
        (tokenizer.initial :: given)
  | asked {theme : Theme} {tokenizer other : Tokenizer engine} {given : List Nesting} :
      History library origin theme tokenizer given → tokenizer.Asked library other →
      History library origin theme other given
  | line {theme : Theme} {tokenizer : Tokenizer engine} {given : List Nesting} {text : String}
      {previous : Option Nesting} {styled : Bool} {reading : LineReading engine} :
      History library origin theme tokenizer given →
      (∀ nesting ∈ previous, nesting ∈ given) →
      tokenizer.Reads library text previous styled reading →
      History library origin theme reading.tokenizer (reading.nesting :: given)
  | restyled {theme : Theme} {tokenizer : Tokenizer engine} {given : List Nesting}
      (next : Theme) :
      History library origin theme tokenizer given →
      History library origin next (tokenizer.withTheme next) given

namespace Tokenizer

variable {origin tokenizer first second : Tokenizer engine} {library : Library} {stage : Bool}

/-- A tokenizer that hands out what would be made now for its rules and for a styler. -/
structure AnswersAfresh (tokenizer : Tokenizer engine) (styler : Styler) : Prop where
  ruleScanner {id : RuleId} {rule : Rule} (filled : Option String) (anchors : Anchors) :
    tokenizer.rule? id = some rule →
    (tokenizer.ruleScanner rule filled anchors).1 =
      (build engine (patternsOf tokenizer.compilation.table rule (fillable rule filled) anchors)).1
  conditionScanner {id number : RuleId} {name contentName : Option Scope.Template}
    {opening condition : Matching} {inner : Inner} (filled : Option String) (anchors : Anchors) :
    tokenizer.rule? id = some ⟨number, name, .lines contentName opening condition inner⟩ →
    (tokenizer.conditionScanner number condition.pattern filled anchors).1 =
      (build engine (conditionPatterns condition.pattern filled anchors)).1
  styleOf (scope : String) : (tokenizer.styleOf scope).1 = styler.styleOf scope

/-- Two tokenizers that come to the same end with a line. -/
structure ReadsAlike (library : Library) (first second : Tokenizer engine) (text : String)
    (previous : Option Nesting) (styled : Bool) : Prop where
  answers : (∃ reading, first.Reads library text previous styled reading) ↔
    ∃ answer, second.Reads library text previous styled answer
  tokens {reading answer : LineReading engine} :
    first.Reads library text previous styled reading →
    second.Reads library text previous styled answer → reading.tokens = answer.tokens
  styledTokens {reading answer : LineReading engine} :
    first.Reads library text previous styled reading →
    second.Reads library text previous styled answer →
    reading.styledTokens = answer.styledTokens
  nesting {reading answer : LineReading engine} :
    first.Reads library text previous styled reading →
    second.Reads library text previous styled answer → reading.nesting = answer.nesting

theorem Coherent.answersAfresh (coherent : tokenizer.Coherent) :
    tokenizer.AnswersAfresh tokenizer.styler where
  ruleScanner := fun filled anchors found => (coherent.ruleScanner found filled anchors).1
  conditionScanner := fun filled anchors found =>
    (coherent.conditionScanner found filled anchors).1
  styleOf := fun scope => (coherent.styleOf scope).1

/-! ## Another theme -/

theorem sameGrammar_withTheme (tokenizer : Tokenizer engine) (theme : Theme) :
    tokenizer.SameGrammar (tokenizer.withTheme theme) :=
  ⟨rfl, rfl, rfl⟩

/-- Injections are collected whatever the theme is. -/
theorem collected_withTheme (tokenizer : Tokenizer engine) (theme : Theme) (library : Library) :
    ((tokenizer.withTheme theme).collected library).1 = (tokenizer.collected library).1 ∧
      ((tokenizer.withTheme theme).collected library).2.1.compilation =
        (tokenizer.collected library).2.1.compilation :=
  (tokenizer.sameGrammar_withTheme theme).collected_eq library

theorem base_withTheme (tokenizer : Tokenizer engine) (theme : Theme) (library : Library)
    (stage : Bool) :
    (tokenizer.withTheme theme).base library stage = tokenizer.base library stage :=
  (tokenizer.sameGrammar_withTheme theme).base_eq library stage

namespace Descends

/-- Descendants get the themes of their origins. -/
theorem withTheme (descends : Descends origin library stage tokenizer) (theme : Theme) :
    Descends (origin.withTheme theme) library stage (tokenizer.withTheme theme) := by
  obtain ⟨injections, compilation⟩ := tokenizer.collected_withTheme theme library
  constructor
  · exact descends.coherent.withTheme theme
  · exact descends.root
  · exact congrArg ({ · with theme }) descends.styler
  · rw [base_withTheme]
    exact descends.grows
  · rw [injections, (origin.collected_withTheme theme library).1]
    exact descends.injections
  · rw [compilation, base_withTheme]
    exact descends.compilation
  · rw [(origin.collected_withTheme theme library).1]
    exact descends.late

theorem asked {other : Tokenizer engine} (descends : Descends origin library false tokenizer)
    (asked : tokenizer.Asked library other) (coherent : origin.Coherent) :
    Descends origin library false other := by
  obtain ⟨coherent', rfl | same⟩ := asked.sound descends.coherent
  · exact descends.collected.early coherent
  · exact descends.sameRules coherent' same

/-- A descendant that has collected its injections has all rules. -/
theorem late_of_isSome (descends : Descends origin library false tokenizer)
    (collected : tokenizer.injections.isSome) : Descends origin library true tokenizer := by
  obtain ⟨injections, kept⟩ := Option.isSome_iff_exists.mp collected
  have unchanged := collected_of_injections library kept
  have whole := descends.collected
  rwa [unchanged] at whole

end Descends

end Tokenizer

/-! ## What histories have in common -/

namespace History

open Tokenizer

variable {library : Library} {origin tokenizer first second : Tokenizer engine} {theme : Theme}
  {given given' : List Nesting}

/-- At any time a tokenizer descends from its origin with the present theme, and knows the nestings
that it has given. It has the rules of its origin until it collects the injections. -/
theorem sound (history : History library origin theme tokenizer given)
    (coherent : origin.Coherent) :
    Descends (origin.withTheme theme) library false tokenizer ∧
      (∀ nesting ∈ given, tokenizer.Knows nesting) ∧
      (tokenizer.injections = none → tokenizer.compilation = origin.compilation) := by
  induction history with
  | now =>
    have itself := (coherent.withTheme origin.styler.theme).descends library
    exact ⟨itself.sameRules coherent ⟨rfl, rfl, rfl, rfl⟩, nofun, fun _ => rfl⟩
  | @started theme tokenizer given _ ih =>
    obtain ⟨descends, knows, early⟩ := ih
    obtain ⟨-, after, same⟩ := descends.coherent.styleOf tokenizer.scopeName
    have grows : tokenizer.compilation.Grows
        (tokenizer.styleOf tokenizer.scopeName).2.compilation := by
      rw [same.compilation]
      exact .refl _
    refine ⟨descends.sameRules after same, fun nesting mem => ?_, fun none => ?_⟩
    · refine Fits.mono ?_ grows same.root
      rcases List.mem_cons.mp mem with rfl | mem
      · exact descends.coherent.fits_initial trivial trivial
      · exact knows nesting mem
    · exact same.compilation.trans (early (same.injections ▸ none))
  | @asked theme tokenizer other given _ asked ih =>
    obtain ⟨descends, knows, early⟩ := ih
    refine ⟨descends.asked asked (coherent.withTheme theme), ?_⟩
    obtain ⟨-, rfl | same⟩ := asked.sound descends.coherent
    · obtain ⟨-, grows, kept⟩ := descends.coherent.collected library
      refine ⟨fun nesting mem => (knows nesting mem).mono grows ?_, fun none => ?_⟩
      · exact (tokenizer.collected_root_styler library).1
      · cases kept.symm.trans none
    · refine ⟨fun nesting mem => (knows nesting mem).mono ?_ same.root, fun none => ?_⟩
      · rw [same.compilation]
        exact .refl _
      · exact same.compilation.trans (early (same.injections ▸ none))
  | line _ taken run ih =>
    obtain ⟨descends, knows, -⟩ := ih
    obtain ⟨after, fits⟩ := descends.coherent.knows_after_reads
      (fun nesting mem => knows nesting (taken nesting mem)) run
    refine ⟨after.trans descends, List.forall_mem_cons.mpr ⟨fits, fun nesting mem => ?_⟩,
      fun none => ?_⟩
    · exact (knows nesting mem).mono (after.any descends.coherent).grows after.root
    · cases (after.late rfl).symm.trans none
  | restyled next _ ih =>
    obtain ⟨descends, knows, early⟩ := ih
    exact ⟨descends.withTheme next, fun nesting mem => (knows nesting mem).mono (.refl _) rfl, early⟩

/-- Two histories that lead to the same theme have a common ancestor, which knows what both of the
tokenizers know: the origin, unless both of them have collected the injections. -/
theorem exists_ancestor (history : History library origin theme first given)
    (other : History library origin theme second given') (coherent : origin.Coherent)
    {previous : Option Nesting} (taken : ∀ nesting ∈ previous, nesting ∈ given ∧ nesting ∈ given') :
    ∃ ancestor : Tokenizer engine, ancestor.Coherent ∧
      Descends ancestor library false first ∧ Descends ancestor library false second ∧
      ∀ nesting ∈ previous, ancestor.Knows nesting := by
  obtain ⟨left, knows, early⟩ := history.sound coherent
  obtain ⟨right, knows', early'⟩ := other.sound coherent
  have of_early {tokenizer : Tokenizer engine}
      (descends : Descends (origin.withTheme theme) library false tokenizer)
      (none : tokenizer.compilation = origin.compilation)
      (knows : ∀ nesting ∈ previous, tokenizer.Knows nesting) :
      ∃ ancestor : Tokenizer engine, ancestor.Coherent ∧
        Descends ancestor library false first ∧ Descends ancestor library false second ∧
        ∀ nesting ∈ previous, ancestor.Knows nesting := by
    refine ⟨origin.withTheme theme, coherent.withTheme theme, left, right, fun nesting mem => ?_⟩
    refine (knows nesting mem).mono ?_ descends.root.symm
    rw [none]
    exact .refl _
  have knows_previous (nesting : Nesting) (mem : nesting ∈ previous) : first.Knows nesting :=
    knows nesting (taken nesting mem).1
  have knows_previous' (nesting : Nesting) (mem : nesting ∈ previous) : second.Knows nesting :=
    knows' nesting (taken nesting mem).2
  cases collected : first.injections with
  | none => exact of_early left (early collected) knows_previous
  | some injections =>
    cases collected' : second.injections with
    | none => exact of_early right (early' collected') knows_previous'
    | some injections' =>
      have whole := left.late_of_isSome (by rw [collected]; rfl)
      have whole' := right.late_of_isSome (by rw [collected']; rfl)
      exact ⟨first, left.coherent, left.coherent.descends library, whole.sibling whole',
        knows_previous⟩

/-- Two histories that lead to the same theme lead to tokenizers that read lines alike. -/
theorem readsAlike (history : History library origin theme first given)
    (other : History library origin theme second given') (coherent : origin.Coherent)
    {previous : Option Nesting} (taken : ∀ nesting ∈ previous, nesting ∈ given ∧ nesting ∈ given')
    (text : String) (styled : Bool) :
    ReadsAlike library first second text previous styled := by
  obtain ⟨ancestor, coherent', left, right, knows⟩ :=
    history.exists_ancestor other coherent taken
  have fits : ancestor.Knows (ancestor.resumed previous) := coherent'.fits_resumed trivial trivial knows
  have there {reading : LineReading engine}
      (run : first.Reads library text previous styled reading) :=
    left.reads right coherent' (equalTokens engine ancestor.styler) rfl fits styled rfl trivial run
  have back {answer : LineReading engine}
      (run : second.Reads library text previous styled answer) :=
    right.reads left coherent' (equalTokens engine ancestor.styler) rfl fits styled rfl trivial run
  have same {reading answer : LineReading engine}
      (run : first.Reads library text previous styled reading)
      (run' : second.Reads library text previous styled answer) :
      SameLine reading answer ∧ reading.nesting = answer.nesting := by
    obtain ⟨answer', answered, same⟩ := there run
    obtain rfl := run'.unique answered
    exact ⟨same.sameLine, same.nesting.symm⟩
  constructor
  · constructor
    · rintro ⟨reading, run⟩
      obtain ⟨answer, answered, -⟩ := there run
      exact ⟨answer, answered⟩
    · rintro ⟨answer, run⟩
      obtain ⟨reading, answered, -⟩ := back run
      exact ⟨reading, answered⟩
  · exact fun run run' => (same run run').1.tokens
  · exact fun run run' => (same run run').1.styledTokens
  · exact fun run run' => (same run run').2

end History

namespace Tokenizer

variable {grammar : GrammarDef} {library : Library} {languages : Languages} {theme : Theme}
  {origin : Tokenizer engine}

theorem styler_ofGrammar (compiled : ofGrammar engine grammar library languages theme = .ok origin) :
    origin.styler = ⟨languages, theme⟩ := by
  obtain ⟨-, root, compilation, -, rfl⟩ := ofGrammar_eq_ok_iff.mp compiled
  rfl

/-- Whatever happened to a tokenizer, it hands out what would be made now for its rules and its
theme. What it answers does not depend on what it read before. -/
theorem histories_answer_alike
    (compiled : ofGrammar engine grammar library languages theme = .ok origin) :
    (∀ present tokenizer given, History library origin present tokenizer given →
      tokenizer.AnswersAfresh ⟨languages, present⟩) ∧
    ∀ present first second given given', History library origin present first given →
      History library origin present second given' →
      first.initial = second.initial ∧
        ∀ text previous styled, (∀ nesting ∈ previous, nesting ∈ given ∧ nesting ∈ given') →
          ReadsAlike library first second text previous styled := by
  have coherent := coherent_ofGrammar compiled
  refine ⟨fun present tokenizer given history => ?_,
    fun present first second given given' history other => ⟨?_, ?_⟩⟩
  · obtain ⟨descends, -⟩ := history.sound coherent
    have styler : tokenizer.styler = ⟨languages, present⟩ := by
      rw [descends.styler, withTheme, styler_ofGrammar compiled]
    exact styler ▸ descends.coherent.answersAfresh
  · obtain ⟨left, -⟩ := history.sound coherent
    obtain ⟨right, -⟩ := other.sound coherent
    have coherent' := coherent.withTheme present
    have first_resumed := left.resumed_eq coherent' (rfl : (none : Option Nesting).map _ = none)
    have second_resumed := right.resumed_eq coherent' (rfl : (none : Option Nesting).map _ = none)
    exact first_resumed.trans second_resumed.symm
  · exact fun text previous styled taken =>
      history.readsAlike other coherent taken text styled

/-- Comments in brackets, with a letter that is injected into them. -/
def lettered : GrammarDef :=
  { Grammar.bracketed with
    injections := [("L:inside", { name := some "letter", matchPattern := some "a" })] }

/-- A theme in which all text is bold. -/
def boldTheme : Theme := ⟨none, {}, { look := { font := some { bold := true } } }, {}⟩

theorem histories_answer_alike_lettered :
    ∃ (theme : Theme) (origin second : Tokenizer Engine.literal) (given : List Nesting)
      (reading answer : LineReading Engine.literal),
      History {} origin theme origin [] ∧ History {} origin theme second given ∧
      origin.injections.isNone ∧ second.injections.isSome ∧
      origin.Reads {} "x<a>" none false reading ∧ second.Reads {} "x<a>" none false answer ∧
      reading.tokens.length = 4 ∧ reading.tokens = answer.tokens ∧
      reading.nesting = answer.nesting := by
  obtain ⟨origin, ⟨one, two, three⟩, compiled, asked⟩ := exists_ofTexts lettered (fun origin => do
    let one ← origin.readLine {} "<" none true
    let two ← (one.tokenizer.withTheme boldTheme).readLine {} "a" (some one.nesting) false
    let three ← origin.readLine {} "x<a>" none false
    if origin.injections.isNone ∧ two.tokenizer.injections.isSome ∧
      three.tokens.length = 4 then some (one, two, three) else none)
    (by decide +kernel)
  simp only [bind, Option.bind_eq_some_iff, Option.ite_none_right_eq_some] at asked
  obtain ⟨_, run₁, _, run₂, _, run₃, ⟨early, late, length⟩, asked⟩ := asked
  cases asked
  have first : History {} origin origin.styler.theme origin [] := .now
  have once := first.line (by simp) (reads_of_readLine run₁)
  have twice := (once.restyled boldTheme).line (by simp) (reads_of_readLine run₂)
  have second := twice.restyled origin.styler.theme
  have run := reads_of_readLine run₃
  have alike := ((histories_answer_alike compiled).2 _ _ _ _ _ first second).2 "x<a>" none false
    (by simp)
  obtain ⟨answer, answered⟩ := alike.answers.mp ⟨three, run⟩
  exact ⟨_, origin, _, _, three, answer, first, second, early, late, run, answered, length,
    alike.tokens run answered, alike.nesting run answered⟩

end Tokenizer

end ScopeTokenizer
