import ScopeTokenizer.Proofs.Tokenizer.Histories

/-!
# Themes and what is read

A theme and the languages of a grammar say how text looks. They do not say where it is cut or what
its scopes are: two tokenizers of one grammar read lines for the same tokens, whatever themes they
have, had before, or get between the lines. Their nestings differ at most in the metadata of scopes.
-/

namespace ScopeTokenizer

open Grammar Pattern Style

variable {engine : Engine}

/-- Frames that differ at most in the metadata of their scopes, and in positions on a line. -/
structure Frame.SameNames (first second : Frame) : Prop where
  depth : first.depth = second.depth
  rule : first.rule = second.rule
  pattern : first.pattern = second.pattern
  tookLineEnd : first.tookLineEnd = second.tookLineEnd
  nameScopes : first.nameScopes.names = second.nameScopes.names
  contentScopes : first.contentScopes.names = second.contentScopes.names

/-- A line that was read twice for the same tokens, up to nestings with the same frames. -/
structure LineReading.SameNames (first second : LineReading engine) : Prop where
  tokens : first.tokens = second.tokens
  frames : List.Forall₂ Frame.SameNames first.nesting.frames second.nesting.frames

/-- Tokens of the same text with the same names of scopes. -/
structure LineTokens.SameNames (first second : LineTokens) : Prop where
  styled : first.styled = false
  styled_right : second.styled = false
  named : first.named = second.named
  stop : first.stop = second.stop

theorem LineTokens.SameNames.add {first second : LineTokens} (same : first.SameNames second)
    {path other : ScopePath} (names : path.names = other.names) (stop : Nat) :
    (first.add path stop).SameNames (second.add other stop) := by
  have plain {tokens : LineTokens} (path : ScopePath) (styled : tokens.styled = false) :
      (tokens.add path stop).named = if stop ≤ tokens.stop then tokens.named
        else tokens.named.push ⟨tokens.stop, stop, path.names⟩ := by
    unfold LineTokens.add
    split
    · rfl
    · rw [if_neg (by rw [styled]; exact Bool.false_ne_true)]
  constructor
  · rw [LineTokens.styled_add, same.styled]
  · rw [LineTokens.styled_add, same.styled_right]
  · rw [plain path same.styled, plain other same.styled_right, same.named, same.stop, names]
  · rw [LineTokens.stop_add, LineTokens.stop_add, same.stop]

namespace Tokenizer

variable {origin tokenizer : Tokenizer engine} {library : Library} {stage : Bool}

/-- What a tokenizer may become while lines are read with it and its theme changes. It may also
have had other languages and another theme to begin with. -/
def Akin (origin : Tokenizer engine) (library : Library) (stage : Bool)
    (tokenizer : Tokenizer engine) : Prop :=
  ∃ ancestor : Tokenizer engine, ancestor.Coherent ∧ origin.SameGrammar ancestor ∧
    Descends ancestor library stage tokenizer

namespace Akin

theorem early (akin : Akin origin library true tokenizer) :
    Akin origin library false tokenizer := by
  obtain ⟨ancestor, coherent, same, descends⟩ := akin
  exact ⟨ancestor, coherent, same, descends.early coherent⟩

theorem restyled (akin : Akin origin library stage tokenizer) (themes : List Theme) :
    Akin origin library stage (themes.foldl withTheme tokenizer) := by
  induction themes generalizing tokenizer with
  | nil => exact akin
  | cons theme themes ih =>
    obtain ⟨ancestor, coherent, same, descends⟩ := akin
    have same' : origin.SameGrammar (ancestor.withTheme theme) :=
      ⟨same.root, same.compilation, same.injections⟩
    exact ih ⟨ancestor.withTheme theme, coherent.withTheme theme, same', descends.withTheme theme⟩

theorem rule?_eq (akin : Akin origin library stage tokenizer) {id : RuleId}
    (le : id ≤ (origin.base library stage).table.size) :
    tokenizer.rule? id = (origin.base library stage).table.rule? id := by
  obtain ⟨ancestor, -, same, descends⟩ := akin
  rw [← same.base_eq] at le ⊢
  exact descends.rule?_eq le

theorem ruleScanner (akin : Akin origin library stage tokenizer) {id : RuleId} {rule : Rule}
    (found : (origin.base library stage).table.rule? id = some rule) (filled : Option String)
    (anchors : Anchors) :
    (tokenizer.ruleScanner rule filled anchors).1 =
        (build engine (patternsOf (origin.base library stage).table rule (fillable rule filled)
          anchors)).1 ∧
      Akin origin library stage (tokenizer.ruleScanner rule filled anchors).2.1 := by
  obtain ⟨ancestor, coherent, same, descends⟩ := akin
  rw [← same.base_eq] at found ⊢
  obtain ⟨built, descends'⟩ := descends.ruleScanner coherent found filled anchors
  exact ⟨built, ancestor, coherent, same, descends'⟩

theorem conditionScanner (akin : Akin origin library stage tokenizer) {id number : RuleId}
    {name contentName : Option Scope.Template} {opening condition : Matching} {inner : Inner}
    (found : (origin.base library stage).table.rule? id =
      some ⟨number, name, .lines contentName opening condition inner⟩)
    (filled : Option String) (anchors : Anchors) :
    (tokenizer.conditionScanner number condition.pattern filled anchors).1 =
        (build engine (conditionPatterns condition.pattern filled anchors)).1 ∧
      Akin origin library stage
        (tokenizer.conditionScanner number condition.pattern filled anchors).2.1 := by
  obtain ⟨ancestor, coherent, same, descends⟩ := akin
  rw [← same.base_eq] at found
  obtain ⟨built, descends'⟩ := descends.conditionScanner found filled anchors
  exact ⟨built, ancestor, coherent, same, descends'⟩

theorem enterAll (akin : Akin origin library stage tokenizer) (path : ScopePath)
    (scopes : Option String) :
    Akin origin library stage (tokenizer.enterAll path scopes).2.1 := by
  obtain ⟨ancestor, coherent, same, descends⟩ := akin
  exact ⟨ancestor, coherent, same, (descends.enterAll path scopes).2⟩

theorem collected (akin : Akin origin library false tokenizer) :
    (tokenizer.collected library).1 = (origin.collected library).1 ∧
      Akin origin library true (tokenizer.collected library).2.1 := by
  obtain ⟨ancestor, coherent, same, descends⟩ := akin
  exact ⟨descends.injections.trans (same.collected_eq library).1,
    ancestor, coherent, same, descends.collected⟩

/-- The nesting at the start of a text has the rule and the scope of the grammar. -/
theorem initial_eq (akin : Akin origin library stage tokenizer) :
    ∃ metadata, tokenizer.initial = .root
      { rule := origin.root
        nameScopes := .root origin.scopeName metadata
        contentScopes := .root origin.scopeName metadata } := by
  obtain ⟨ancestor, coherent, same, descends⟩ := akin
  have scopeName : tokenizer.scopeName = origin.scopeName := by
    simp only [Tokenizer.scopeName]
    rw [(descends.any coherent).grows.host]
    exact congrArg (·.host.scopeName) same.compilation
  rw [descends.coherent.initial_eq, scopeName, descends.root, same.root]
  exact ⟨_, rfl⟩

end Akin

theorem Coherent.le_size_late (coherent : origin.Coherent) (library : Library) {id : RuleId}
    (le : id ≤ (origin.base library false).table.size) :
    id ≤ (origin.base library true).table.size :=
  Nat.le_trans le (coherent.collected library).2.1.table.size_le

theorem Coherent.reference_le (coherent : origin.Coherent) (library : Library) {stage : Bool}
    {id ref : RuleId} {rule : Rule} (found : (origin.base library stage).table.rule? id = some rule)
    (mem : ref ∈ rule.references) : ref ≤ (origin.base library stage).table.size :=
  (coherent.closed_base library stage).table.references_le id rule found ref mem

end Tokenizer

namespace Simulation

open Tokenizer

/-- Readings with two tokenizers of one grammar, for the names of scopes. -/
def byNames {origin : Tokenizer engine} (coherent : origin.Coherent) (library : Library) :
    Simulation engine where
  library
  Stop _ := True
  Paths a b := a.names = b.names
  Ground _ _ := True
  Known stage id := id ≤ (origin.base library stage).table.size
  Compiled stage id rule := (origin.base library stage).table.rule? id = some rule
  Related stage p q := Akin origin library stage p.tokenizer ∧
    Akin origin library stage q.tokenizer ∧ p.tokens.SameNames q.tokens
  stop_of_le := fun _ _ => trivial
  stop_of_found := @stops_anywhere engine
  names_eq := id
  ground_closing := id
  known_of_early := @Coherent.le_size_late engine origin coherent library
  related_of_late := fun related => ⟨related.1.early, related.2.1.early, related.2.2⟩
  known_reference := @Coherent.reference_le engine origin coherent library
  enter := by
    rintro stage p q a b scopes ⟨first, second, tokens⟩ names
    refine ⟨?_, first.enterAll a scopes, second.enterAll b scopes, tokens⟩
    rw [names_enterAll, names_enterAll, names]
  cut := by
    rintro stage p q a b stop ⟨first, second, tokens⟩ names -
    exact ⟨first, second, tokens.add names stop⟩
  warn := fun _ related => related
  rule? := by
    rintro stage p q id ⟨first, second, -⟩ known
    rw [first.rule?_eq known, second.rule?_eq known]
    exact ⟨rfl, fun rule found => found⟩
  ruleScanner := by
    rintro stage p q id rule filled anchors ⟨first, second, tokens⟩ found
    obtain ⟨left, first'⟩ := first.ruleScanner found filled anchors
    obtain ⟨right, second'⟩ := second.ruleScanner found filled anchors
    refine ⟨left.trans right.symm, fun member mem ref label => ?_, first', second', tokens⟩
    rw [left] at mem
    obtain ⟨⟨target, text⟩, patterns, is, -⟩ := PatternSet.exists_of_mem_ofList mem
    obtain rfl := is.trans label
    exact le_of_mem_patternsOf patterns
  conditionScanner := by
    rintro stage p q id number name contentName opening condition inner filled anchors
      ⟨first, second, tokens⟩ found
    obtain ⟨left, first'⟩ := first.conditionScanner found filled anchors
    obtain ⟨right, second'⟩ := second.conditionScanner found filled anchors
    exact ⟨left.trans right.symm, first', second', tokens⟩
  collected := by
    rintro p q ⟨first, second, tokens⟩
    obtain ⟨left, first'⟩ := first.collected
    obtain ⟨right, second'⟩ := second.collected
    refine ⟨left.trans right.symm, fun injection mem => ?_, first', second', tokens⟩
    rw [left] at mem
    obtain ⟨coherent', -, kept⟩ := coherent.collected library
    exact coherent'.injections _ kept injection mem

variable {sim : Simulation engine} {stage : Bool} {first second : Nesting}

/-- Related nestings are still related without their positions on a line. -/
theorem Nestings.reset (alike : sim.Nestings stage first second)
    (ground : ∀ frame other, sim.Ground frame other → sim.Ground frame.reset other.reset) :
    sim.Nestings stage first.reset second.reset := by
  have frames_reset {frame other : Frame} (frames : sim.Frames stage frame other) :
      sim.Frames stage frame.reset other.reset :=
    { frames with entered := rfl, anchor := rfl }
  induction alike with
  | root frames grounded => exact .root (frames_reset frames) (ground _ _ grounded)
  | above _ frames ih => exact .above ih (frames_reset frames)

/-- Nestings of readings for names have the same names, frame by frame. -/
theorem Nestings.sameNames {origin : Tokenizer engine} {coherent : origin.Coherent}
    {library : Library} (alike : (byNames coherent library).Nestings stage first second) :
    List.Forall₂ Frame.SameNames first.frames second.frames := by
  have same {frame other : Frame} (frames : (byNames coherent library).Frames stage frame other) :
      frame.SameNames other :=
    ⟨frames.depth, frames.rule, frames.pattern, frames.tookLineEnd, frames.nameScopes,
      frames.contentScopes⟩
  induction alike with
  | root frames _ => exact .cons (same frames) .nil
  | above _ frames ih =>
    simp only [Nesting.frames_above]
    exact List.rel_append ih (.cons (same frames) .nil)

end Simulation

namespace Tokenizer

open Simulation

/-- Lines are read one after the other for the names of scopes, each from where the line before it
led to. Before each line, the tokenizer may get other themes. -/
inductive ReadsRestyled (library : Library) :
    Tokenizer engine → Option Nesting → List (List Theme × String) →
      List (LineReading engine) → Prop where
  | nil {tokenizer : Tokenizer engine} {previous : Option Nesting} :
      ReadsRestyled library tokenizer previous [] []
  | cons {tokenizer : Tokenizer engine} {previous : Option Nesting} {themes : List Theme}
      {text : String} {lines : List (List Theme × String)} {reading : LineReading engine}
      {readings : List (LineReading engine)} :
      (themes.foldl withTheme tokenizer).Reads library text previous false reading →
      ReadsRestyled library reading.tokenizer (some reading.nesting) lines readings →
      ReadsRestyled library tokenizer previous ((themes, text) :: lines) (reading :: readings)

variable {origin first second : Tokenizer engine} {library : Library} {stage : Bool}

theorem ReadsRestyled.unique {previous : Option Nesting} {lines : List (List Theme × String)}
    {readings others : List (LineReading engine)}
    (run : ReadsRestyled library first previous lines readings)
    (again : ReadsRestyled library first previous lines others) : readings = others := by
  induction run generalizing others with
  | nil =>
    cases again
    rfl
  | cons run _ ih =>
    cases again with
    | cons run' rest =>
      obtain rfl := run.unique run'
      rw [ih rest]

/-- Tokenizers of one grammar begin a line in nestings with the same names, if the line before it
led to such nestings. -/
theorem Akin.resumed (left : Akin origin library stage first)
    (right : Akin origin library stage second) (coherent : origin.Coherent)
    {previous other : Option Nesting}
    (alike : Option.Rel ((byNames coherent library).Nestings stage) previous other) :
    (byNames coherent library).Nestings stage (first.resumed previous)
      (second.resumed other) := by
  cases alike with
  | some nestings => exact nestings.reset fun _ _ _ => trivial
  | none =>
    obtain ⟨metadata, initial⟩ := left.initial_eq
    obtain ⟨metadata', initial'⟩ := right.initial_eq
    obtain ⟨rule, found, -⟩ := coherent.root
    have early := RuleTable.le_size_of_rule? found
    have known : (byNames coherent library).Known stage origin.root := by
      cases stage with
      | false => exact early
      | true => exact (byNames coherent library).known_of_early early
    simp only [Tokenizer.resumed]
    rw [initial, initial']
    have names : (ScopePath.root origin.scopeName metadata).names =
        (ScopePath.root origin.scopeName metadata').names := rfl
    exact .root (.opening known names _ _ _) trivial

/-- They come to the same end with a line. -/
theorem Akin.reads (left : Akin origin library stage first)
    (right : Akin origin library stage second) (coherent : origin.Coherent) {text : String}
    {previous other : Option Nesting}
    (alike : Option.Rel ((byNames coherent library).Nestings stage) previous other)
    {reading : LineReading engine} (run : first.Reads library text previous false reading) :
    ∃ answer, second.Reads library text other false answer ∧
      (byNames coherent library).SameReading text reading answer := by
  have isNone : previous.isNone = other.isNone := by cases alike <;> rfl
  have begins : (byNames coherent library).Related stage
      { tokenizer := first, tokens := { styled := false } }
      { tokenizer := second, tokens := { styled := false } } :=
    ⟨left, right, rfl, rfl, rfl, rfl⟩
  exact (byNames coherent library).reads isNone begins (left.resumed right coherent alike) trivial
    run

theorem sameNames_of_sameReading {coherent : origin.Coherent} {text : String}
    {reading answer : LineReading engine}
    (same : (byNames coherent library).SameReading text reading answer) :
    reading.SameNames answer where
  tokens := by
    obtain ⟨-, -, tokens⟩ := same.progress
    have named : reading.lineTokens.named = answer.lineTokens.named := tokens.named
    have names : reading.nesting.top.contentScopes.names =
        answer.nesting.top.contentScopes.names := same.nesting.top.contentScopes
    simp only [LineReading.tokens, LineTokens.tokens]
    rw [named, names, same.length_eq]
  frames := same.nesting.sameNames

/-- And so they do with line after line, whatever themes they get meanwhile. -/
theorem Akin.readsRestyled (left : Akin origin library stage first)
    (right : Akin origin library stage second) (coherent : origin.Coherent)
    {previous other : Option Nesting}
    (alike : Option.Rel ((byNames coherent library).Nestings stage) previous other)
    {lines others : List (List Theme × String)} (texts : lines.map Prod.snd = others.map Prod.snd)
    {readings : List (LineReading engine)}
    (run : ReadsRestyled library first previous lines readings) :
    ∃ answers, ReadsRestyled library second other others answers ∧
      List.Forall₂ LineReading.SameNames readings answers := by
  induction run generalizing stage second other others with
  | nil =>
    obtain rfl := List.map_eq_nil_iff.mp texts.symm
    exact ⟨[], .nil, .nil⟩
  | @cons tokenizer previous themes text lines reading readings run _ ih =>
    obtain ⟨⟨themes', _⟩, others, rfl, rfl, rest⟩ := List.map_eq_cons_iff.mp texts.symm
    obtain ⟨answer, answers, same⟩ :=
      (left.restyled themes).reads (right.restyled themes') coherent alike run
    obtain ⟨left', right', -⟩ := same.progress
    obtain ⟨later, run', alike'⟩ := ih left' right' (.some same.nesting) rest.symm
    exact ⟨answer :: later, .cons answers run', .cons (sameNames_of_sameReading same) alike'⟩

/-- Whether a grammar compiles, and to which rules, does not depend on how its text looks. -/
theorem exists_sameGrammar_of_ofGrammar {grammar : GrammarDef} {languages : Languages}
    {theme : Theme} (compiled : ofGrammar engine grammar library languages theme = .ok first)
    (languages' : Languages) (theme' : Theme) :
    ∃ second, ofGrammar engine grammar library languages' theme' = .ok second ∧
      first.SameGrammar second := by
  obtain ⟨named, root, compilation, run, rfl⟩ := ofGrammar_eq_ok_iff.mp compiled
  exact ⟨_, ofGrammar_eq_ok_iff.mpr ⟨named, root, compilation, run, rfl⟩, rfl, rfl, rfl⟩

/-- The theme and the languages make no difference to what is read: not those that a grammar is
compiled with, and not the themes that its tokenizer gets between the lines. -/
theorem themes_leave_names {grammar : GrammarDef} {languages : Languages} {theme : Theme}
    (compiled : ofGrammar engine grammar library languages theme = .ok first)
    (languages' : Languages) (theme' : Theme) :
    ∃ second, ofGrammar engine grammar library languages' theme' = .ok second ∧
      ∀ lines others : List (List Theme × String), lines.map Prod.snd = others.map Prod.snd →
        ((∃ readings, ReadsRestyled library first none lines readings) ↔
          ∃ answers, ReadsRestyled library second none others answers) ∧
        ∀ readings answers, ReadsRestyled library first none lines readings →
          ReadsRestyled library second none others answers →
          List.Forall₂ LineReading.SameNames readings answers := by
  obtain ⟨second, compiled', same⟩ :=
    exists_sameGrammar_of_ofGrammar compiled languages' theme'
  have coherent := coherent_ofGrammar compiled
  have coherent' := coherent_ofGrammar compiled'
  have left : Akin first library false first :=
    ⟨first, coherent, ⟨rfl, rfl, rfl⟩, coherent.descends library⟩
  have right : Akin first library false second :=
    ⟨second, coherent', same, coherent'.descends library⟩
  refine ⟨second, compiled', fun lines others texts => ⟨⟨?_, ?_⟩, ?_⟩⟩
  · rintro ⟨readings, run⟩
    obtain ⟨answers, answered, -⟩ := left.readsRestyled right coherent .none texts run
    exact ⟨answers, answered⟩
  · rintro ⟨answers, run⟩
    obtain ⟨readings, answered, -⟩ := right.readsRestyled left coherent .none texts.symm run
    exact ⟨readings, answered⟩
  · intro readings answers run run'
    obtain ⟨twins, answered, alike⟩ := left.readsRestyled right coherent .none texts run
    rwa [run'.unique answered]

theorem themes_leave_names_lettered :
    ∃ (first second : Tokenizer Engine.literal)
      (readings answers : List (LineReading Engine.literal)),
      ofTexts lettered = .ok first ∧
      ofGrammar .literal lettered {} { initial := 1 } boldTheme = .ok second ∧
      ReadsRestyled {} first none [([], "x<"), ([boldTheme], "<a")] readings ∧
      ReadsRestyled {} second none [([boldTheme], "x<"), ([], "<a")] answers ∧
      readings.map (fun reading => reading.tokens.length) = [2, 2] ∧
      List.Forall₂ LineReading.SameNames readings answers := by
  obtain ⟨first, ⟨one, two⟩, compiled, asked⟩ := exists_ofTexts lettered (fun first => do
    let one ← first.readLine {} "x<" none false
    let two ← (one.tokenizer.withTheme boldTheme).readLine {} "<a" (some one.nesting) false
    if [one, two].map (fun reading => reading.tokens.length) = [2, 2] then some (one, two)
    else none)
    (by decide +kernel)
  simp only [bind, Option.bind_eq_some_iff, Option.ite_none_right_eq_some] at asked
  obtain ⟨_, run₁, _, run₂, lengths, asked⟩ := asked
  cases asked
  have run : ReadsRestyled {} first none [([], "x<"), ([boldTheme], "<a")] [one, two] :=
    .cons (reads_of_readLine run₁) (.cons (reads_of_readLine run₂) .nil)
  obtain ⟨second, compiled', same⟩ := themes_leave_names compiled { initial := 1 } boldTheme
  obtain ⟨both, alike⟩ :=
    same [([], "x<"), ([boldTheme], "<a")] [([boldTheme], "x<"), ([], "<a")] rfl
  obtain ⟨answers, run'⟩ := both.mp ⟨_, run⟩
  exact ⟨first, second, _, answers, compiled, compiled', run, run', lengths, alike _ _ run run'⟩

end Tokenizer

end ScopeTokenizer
