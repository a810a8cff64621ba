import ScopeTokenizer.Proofs.Reading.Answers
import ScopeTokenizer.Proofs.Tokenizer.Caching

/-!
# Tokenizers with one origin

A tokenizer changes while lines are read with it: it collects injections, and keeps scanners and
styles.
Two tokenizers that have gone from the same one through different lines still answer alike,
so reading a line with one or with the other comes to the same end.
-/

namespace ScopeTokenizer

open Grammar Pattern Style

variable {engine : Engine}

namespace Tokenizer

/-- The rules of a tokenizer, before or after its injections were collected. -/
def base (origin : Tokenizer engine) (library : Library) : Bool → Compilation
  | false => origin.compilation
  | true => (origin.collected library).2.1.compilation

/-- What another tokenizer may become while lines are read with it. The stage says whether the
injections must have been collected. -/
structure Descends (origin : Tokenizer engine) (library : Library) (stage : Bool)
    (tokenizer : Tokenizer engine) : Prop where
  coherent : tokenizer.Coherent
  root : tokenizer.root = origin.root
  styler : tokenizer.styler = origin.styler
  grows : (origin.base library stage).Grows tokenizer.compilation
  injections : (tokenizer.collected library).1 = (origin.collected library).1
  compilation : (tokenizer.collected library).2.1.compilation = origin.base library true
  late : stage = true → tokenizer.injections = some (origin.collected library).1

variable {origin tokenizer other : Tokenizer engine} {library : Library} {stage : Bool}

theorem Coherent.closed_base (coherent : origin.Coherent) (library : Library) (stage : Bool) :
    (origin.base library stage).Closed := by
  cases stage with
  | false => exact coherent.closed
  | true => exact (coherent.collected library).1.closed

theorem Coherent.descends (coherent : origin.Coherent) (library : Library) :
    Descends origin library false origin :=
  ⟨coherent, rfl, rfl, .refl _, rfl, rfl, nofun⟩

/-- Tokenizers of one grammar, which may have different languages and themes. -/
structure SameGrammar (first second : Tokenizer engine) : Prop where
  root : second.root = first.root
  compilation : second.compilation = first.compilation
  injections : second.injections = first.injections

/-- The injections of a grammar do not depend on how its text looks. -/
theorem SameGrammar.collected_eq {first second : Tokenizer engine}
    (same : first.SameGrammar second) (library : Library) :
    (second.collected library).1 = (first.collected library).1 ∧
      (second.collected library).2.1.compilation = (first.collected library).2.1.compilation := by
  simp only [Tokenizer.collected]
  rw [same.injections]
  cases first.injections with
  | some injections => exact ⟨rfl, same.compilation⟩
  | none =>
    dsimp only
    rw [same.compilation]
    exact ⟨rfl, rfl⟩

theorem SameGrammar.base_eq {first second : Tokenizer engine}
    (same : first.SameGrammar second) (library : Library) (stage : Bool) :
    second.base library stage = first.base library stage := by
  cases stage with
  | false => exact same.compilation
  | true => exact (same.collected_eq library).2

theorem SameRules.collected_eq {first second : Tokenizer engine} (same : first.SameRules second)
    (library : Library) :
    (second.collected library).1 = (first.collected library).1 ∧
      (second.collected library).2.1.compilation = (first.collected library).2.1.compilation :=
  SameGrammar.collected_eq ⟨same.root, same.compilation, same.injections⟩ library

/-- Collecting the injections a second time changes nothing. -/
theorem collected_of_injections {injections : List Injection} (library : Library)
    (kept : tokenizer.injections = some injections) :
    tokenizer.collected library = (injections, tokenizer, []) := by
  rw [collected, kept]

theorem collected_root_styler (tokenizer : Tokenizer engine) (library : Library) :
    (tokenizer.collected library).2.1.root = tokenizer.root ∧
      (tokenizer.collected library).2.1.styler = tokenizer.styler := by
  simp only [Tokenizer.collected]
  cases tokenizer.injections with
  | some injections => exact ⟨rfl, rfl⟩
  | none => exact ⟨rfl, rfl⟩

namespace Descends

theorem early (descends : Descends origin library true tokenizer) (coherent : origin.Coherent) :
    Descends origin library false tokenizer :=
  { descends with grows := (coherent.collected library).2.1.trans descends.grows, late := nofun }

theorem any (descends : Descends origin library stage tokenizer) (coherent : origin.Coherent) :
    Descends origin library false tokenizer := by
  cases stage with
  | false => exact descends
  | true => exact descends.early coherent

theorem trans (later : Descends tokenizer library stage other)
    (descends : Descends origin library false tokenizer) :
    Descends origin library false other := by
  have early := later.any descends.coherent
  exact
    { coherent := later.coherent
      root := later.root.trans descends.root
      styler := later.styler.trans descends.styler
      grows := descends.grows.trans early.grows
      injections := later.injections.trans descends.injections
      compilation := later.compilation.trans descends.compilation
      late := nofun }

/-- Once the injections are collected, all rules are there. -/
theorem compilation_eq (descends : Descends origin library true tokenizer) :
    tokenizer.compilation = origin.base library true := by
  have kept := descends.late rfl
  have compilation := descends.compilation
  simp only [Tokenizer.collected] at compilation
  rwa [kept] at compilation

/-- Of two tokenizers that have collected the injections, each descends from the other. -/
theorem sibling (first : Descends origin library true tokenizer)
    (second : Descends origin library true other) : Descends tokenizer library false other where
  coherent := second.coherent
  root := second.root.trans first.root.symm
  styler := second.styler.trans first.styler.symm
  grows := by
    rw [base, first.compilation_eq, second.compilation_eq]
    exact .refl _
  injections := second.injections.trans first.injections.symm
  compilation := second.compilation.trans first.compilation.symm
  late := nofun

theorem rule?_eq (descends : Descends origin library stage tokenizer) {id : RuleId}
    (le : id ≤ (origin.base library stage).table.size) :
    tokenizer.rule? id = (origin.base library stage).table.rule? id :=
  descends.grows.table.kept id le

theorem sameRules (descends : Descends origin library stage tokenizer)
    (coherent : other.Coherent) (same : tokenizer.SameRules other) :
    Descends origin library stage other := by
  obtain ⟨injections, compilation⟩ := same.collected_eq library
  constructor
  · exact coherent
  · exact same.root.trans descends.root
  · exact same.styler.trans descends.styler
  · rw [same.compilation]
    exact descends.grows
  · exact injections.trans descends.injections
  · exact compilation.trans descends.compilation
  · rw [same.injections]
    exact descends.late

theorem collected (descends : Descends origin library false tokenizer) :
    Descends origin library true (tokenizer.collected library).2.1 := by
  obtain ⟨coherent, -, kept⟩ := descends.coherent.collected library
  obtain ⟨root, styler⟩ := tokenizer.collected_root_styler library
  have again := collected_of_injections library kept
  constructor
  · exact coherent
  · exact root.trans descends.root
  · exact styler.trans descends.styler
  · rw [descends.compilation]
    exact .refl _
  · rw [again]
    exact descends.injections
  · rw [again]
    exact descends.compilation
  · rw [kept, descends.injections]
    exact fun _ => rfl

/-- The scanner for a rule is built from the rules that were there first. -/
theorem ruleScanner (descends : Descends origin library stage tokenizer)
    (coherent : origin.Coherent) {id : RuleId} {rule : Rule}
    (found : (origin.base library stage).table.rule? id = some rule) (filled : Option String)
    (anchors : Anchors) :
    (tokenizer.ruleScanner rule filled anchors).1 =
        (build engine (patternsOf (origin.base library stage).table rule (fillable rule filled)
          anchors)).1 ∧
      Descends origin library stage (tokenizer.ruleScanner rule filled anchors).2.1 := by
  have closed := (coherent.closed_base library stage).table
  have le := RuleTable.le_size_of_rule? found
  have known : tokenizer.rule? id = some rule := (descends.rule?_eq le).trans found
  obtain ⟨built, coherent', same⟩ := descends.coherent.ruleScanner known filled anchors
  refine ⟨?_, descends.sameRules coherent' same⟩
  rw [built, patternsOf_eq descends.grows.table closed]
  rwa [closed.id_eq id rule found]

theorem conditionScanner (descends : Descends origin library stage tokenizer)
    {id number : RuleId} {name contentName : Option Scope.Template}
    {opening condition : Matching} {inner : Inner}
    (found : (origin.base library stage).table.rule? id =
      some ⟨number, name, .lines contentName opening condition inner⟩)
    (filled : Option String) (anchors : Anchors) :
    (tokenizer.conditionScanner number condition.pattern filled anchors).1 =
        (build engine (conditionPatterns condition.pattern filled anchors)).1 ∧
      Descends origin library stage
        (tokenizer.conditionScanner number condition.pattern filled anchors).2.1 := by
  have known := (descends.rule?_eq (RuleTable.le_size_of_rule? found)).trans found
  obtain ⟨built, coherent', same⟩ := descends.coherent.conditionScanner known filled anchors
  exact ⟨built, descends.sameRules coherent' same⟩

/-- Scopes are entered by the first styler. -/
theorem enterAll (descends : Descends origin library stage tokenizer) (path : ScopePath)
    (scopes : Option String) :
    (tokenizer.enterAll path scopes).1 = path.enterAll origin.styler scopes ∧
      Descends origin library stage (tokenizer.enterAll path scopes).2.1 := by
  obtain ⟨entered, coherent, same⟩ := descends.coherent.enterAll path scopes
  refine ⟨?_, descends.sameRules coherent same⟩
  rw [entered, descends.styler]

end Descends

end Tokenizer

/-! ## Readings with kin -/

/-- What two readings of one line have in common, apart from the rules. -/
structure Upkeep (engine : Engine) (styler : Styler) where
  /-- Positions where a token may end. -/
  Stop : Nat → Prop
  /-- The scopes of any text. -/
  Inside : ScopePath → Prop
  /-- The scopes of the grammar itself. -/
  Whole : ScopePath → Prop
  Keeps : LineTokens → LineTokens → Prop
  stop_of_le {n m : Nat} : Stop n → m ≤ n → Stop m
  stop_of_found {scanner : Scanner engine} {line : Line} {position : Nat}
    {found : SetMatch Target} : Stop line.length → scanner.findAt line position = some found →
      Stop found.start ∧ Stop found.stop ∧
        ∀ span, some span ∈ found.captures → Stop span.1 ∧ Stop span.2
  enter {path : ScopePath} (scope : String) : Inside path → Inside (path.enter styler scope)
  add {first second : LineTokens} {scopes : ScopePath} {stop : Nat} :
    Keeps first second → Inside scopes → Stop stop →
      Keeps (first.add scopes stop) (second.add scopes stop)

theorem Upkeep.enterAll {styler : Styler} (upkeep : Upkeep engine styler) {path : ScopePath}
    (inside : upkeep.Inside path) (scopes : Option String) :
    upkeep.Inside (path.enterAll styler scopes) := by
  cases scopes with
  | none => exact inside
  | some text =>
    exact List.foldlRecOn _ _ (motive := upkeep.Inside) inside
      fun _ inside scope _ => upkeep.enter scope inside

namespace Simulation

open Tokenizer

/-- Readings with two tokenizers of one origin. -/
def kin {origin : Tokenizer engine} (coherent : origin.Coherent) (library : Library)
    (upkeep : Upkeep engine origin.styler) : Simulation engine where
  library
  Stop := upkeep.Stop
  Paths a b := a = b ∧ upkeep.Inside a
  Ground a _ := a.rule = origin.root ∧ upkeep.Whole a.nameScopes ∧ a.contentScopes = a.nameScopes
  Known stage id := id ≤ (origin.base library stage).table.size
  Compiled stage id rule := (origin.base library stage).table.rule? id = some rule
  Related stage p q := Descends origin library stage p.tokenizer ∧
    Descends origin library stage q.tokenizer ∧ upkeep.Keeps p.tokens q.tokens
  stop_of_le := upkeep.stop_of_le
  stop_of_found := upkeep.stop_of_found
  names_eq := fun paths => congrArg ScopePath.names paths.1
  ground_closing := fun ground => ⟨ground.1, ground.2.1, rfl⟩
  known_of_early := fun known =>
    Nat.le_trans known (coherent.collected library).2.1.table.size_le
  related_of_late := fun related =>
    ⟨related.1.early coherent, related.2.1.early coherent, related.2.2⟩
  known_reference := fun found mem =>
    (coherent.closed_base library _).table.references_le _ _ found _ mem
  enter := by
    rintro stage p q a _ scopes ⟨first, second, keeps⟩ ⟨rfl, property⟩
    obtain ⟨left, first'⟩ := first.enterAll a scopes
    obtain ⟨right, second'⟩ := second.enterAll a scopes
    refine ⟨⟨left.trans right.symm, ?_⟩, first', second', keeps⟩
    rw [left]
    exact upkeep.enterAll property scopes
  cut := by
    rintro stage p q a _ stop ⟨first, second, keeps⟩ ⟨rfl, property⟩ here
    exact ⟨first, second, upkeep.add keeps property here⟩
  warn := fun _ related => related
  rule? := by
    rintro stage p q id ⟨first, second, -⟩ known
    rw [first.rule?_eq known, second.rule?_eq known]
    exact ⟨rfl, fun rule found => found⟩
  ruleScanner := by
    rintro stage p q id rule filled anchors ⟨first, second, keeps⟩ found
    obtain ⟨left, first'⟩ := first.ruleScanner coherent found filled anchors
    obtain ⟨right, second'⟩ := second.ruleScanner coherent found filled anchors
    refine ⟨left.trans right.symm, fun member mem ref label => ?_, first', second', keeps⟩
    rw [left] at mem
    obtain ⟨⟨target, text⟩, patterns, is, -⟩ := PatternSet.exists_of_mem_ofList mem
    obtain rfl := is.trans label
    exact le_of_mem_patternsOf patterns
  conditionScanner := by
    rintro stage p q id number name contentName opening condition inner filled anchors
      ⟨first, second, keeps⟩ found
    obtain ⟨left, first'⟩ := first.conditionScanner found filled anchors
    obtain ⟨right, second'⟩ := second.conditionScanner found filled anchors
    exact ⟨left.trans right.symm, first', second', keeps⟩
  collected := by
    rintro p q ⟨first, second, keeps⟩
    refine ⟨first.injections.trans second.injections.symm, fun injection mem => ?_,
      first.collected, second.collected, keeps⟩
    rw [first.injections] at mem
    obtain ⟨coherent', -, kept⟩ := coherent.collected library
    exact coherent'.injections _ kept injection mem

end Simulation

namespace Tokenizer

open Simulation

variable {origin tokenizer other : Tokenizer engine} {library : Library} {stage : Bool}

/-- A nesting of rules of a tokenizer, in scopes that are kept up. -/
structure Fits (tokenizer : Tokenizer engine) (Inside Whole : ScopePath → Prop)
    (nesting : Nesting) : Prop where
  known : ∀ frame ∈ nesting.frames, frame.rule ≤ tokenizer.compilation.table.size
  inside : ∀ frame ∈ nesting.frames, Inside frame.nameScopes ∧ Inside frame.contentScopes
  root : nesting.bottom.rule = tokenizer.root
  whole : Whole nesting.bottom.nameScopes
  content : nesting.bottom.contentScopes = nesting.bottom.nameScopes

variable {Inside Whole : ScopePath → Prop} {nesting : Nesting}

theorem Fits.reset (fits : tokenizer.Fits Inside Whole nesting) :
    tokenizer.Fits Inside Whole nesting.reset := by
  have all {P : Frame → Prop} (given : ∀ frame ∈ nesting.frames, P frame.reset) :
      ∀ frame ∈ nesting.reset.frames, P frame := by
    intro frame mem
    rw [Nesting.frames_reset] at mem
    obtain ⟨other, inside, rfl⟩ := List.mem_map.mp mem
    exact given other inside
  constructor
  · exact all fits.known
  · exact all fits.inside
  · rw [Nesting.bottom_reset]
    exact fits.root
  · rw [Nesting.bottom_reset]
    exact fits.whole
  · rw [Nesting.bottom_reset]
    exact fits.content

/-- A nesting that fits a tokenizer fits those that come after it. -/
theorem Fits.mono (fits : tokenizer.Fits Inside Whole nesting)
    (grows : tokenizer.compilation.Grows other.compilation) (root : other.root = tokenizer.root) :
    other.Fits Inside Whole nesting :=
  { fits with
    known := fun frame mem => Nat.le_trans (fits.known frame mem) grows.table.size_le
    root := fits.root.trans root.symm }

theorem Fits.weaken {Inside' Whole' : ScopePath → Prop}
    (fits : tokenizer.Fits Inside Whole nesting) (inside : ∀ path, Inside path → Inside' path)
    (whole : ∀ path, Whole path → Whole' path) : tokenizer.Fits Inside' Whole' nesting :=
  { fits with
    inside := fun frame mem =>
      ⟨inside _ (fits.inside frame mem).1, inside _ (fits.inside frame mem).2⟩
    whole := whole _ fits.whole }

/-- The scopes of the grammar itself. -/
def rootScopes (tokenizer : Tokenizer engine) : ScopePath :=
  tokenizer.styler.rootPath tokenizer.scopeName

theorem Coherent.fits_initial (coherent : tokenizer.Coherent)
    (inside : Inside tokenizer.rootScopes) (whole : Whole tokenizer.rootScopes) :
    tokenizer.Fits Inside Whole tokenizer.initial := by
  obtain ⟨rule, found, -⟩ := coherent.root
  rw [coherent.initial_eq]
  constructor
  · intro frame mem
    obtain rfl := List.mem_singleton.mp mem
    exact RuleTable.le_size_of_rule? found
  · intro frame mem
    obtain rfl := List.mem_singleton.mp mem
    exact ⟨inside, inside⟩
  · rfl
  · exact whole
  · rfl

namespace Descends

theorem rootScopes_eq (descends : Descends origin library stage tokenizer)
    (coherent : origin.Coherent) : tokenizer.rootScopes = origin.rootScopes := by
  simp only [rootScopes, scopeName]
  rw [descends.styler, (descends.any coherent).grows.host]
  rfl

theorem resumed_eq (descends : Descends origin library stage tokenizer)
    (coherent : origin.Coherent) {previous other : Option Nesting}
    (same : previous.map Nesting.reset = other.map Nesting.reset) :
    tokenizer.resumed previous = origin.resumed other := by
  have scopes := descends.rootScopes_eq coherent
  simp only [rootScopes] at scopes
  cases previous with
  | none =>
    cases other with
    | none =>
      simp only [resumed]
      rw [descends.coherent.initial_eq, coherent.initial_eq, scopes, descends.root]
    | some nesting => cases same
  | some nesting =>
    cases other with
    | none => cases same
    | some nesting => exact Option.some.inj same

end Descends

/-- What two readings of a line with kin have in common. -/
structure SameAnswer (origin : Tokenizer engine) (library : Library)
    (upkeep : Upkeep engine origin.styler) (text : String) (first second : LineReading engine) :
    Prop where
  nesting : second.nesting = first.nesting
  left : Descends origin library true first.tokenizer
  right : Descends origin library true second.tokenizer
  fits : first.tokenizer.Fits upkeep.Inside upkeep.Whole first.nesting
  keeps : upkeep.Keeps first.lineTokens second.lineTokens
  length : first.length = (terminated text).length
  length_eq : second.length = first.length
  reached : first.length ≤ first.lineTokens.stop

/-- Kin read a line alike, from nestings that agree. -/
theorem Descends.reads (first : Descends origin library stage tokenizer)
    (second : Descends origin library stage other) (coherent : origin.Coherent)
    (upkeep : Upkeep engine origin.styler) {text : String} {previous twin : Option Nesting}
    (same : previous.map Nesting.reset = twin.map Nesting.reset)
    (fits : origin.Fits upkeep.Inside upkeep.Whole (origin.resumed previous))
    {styled : Bool} (styledToo : Bool) (keeps : upkeep.Keeps { styled } { styled := styledToo })
    (inside : upkeep.Stop (terminated text).length) {reading : LineReading engine}
    (run : tokenizer.Reads library text previous styled reading) :
    ∃ answer, other.Reads library text twin styledToo answer ∧
      SameAnswer origin library upkeep text reading answer := by
  let sim := kin coherent library upkeep
  have resumed : sim.Nestings false (tokenizer.resumed previous) (other.resumed twin) := by
    rw [first.resumed_eq coherent rfl, second.resumed_eq coherent same.symm]
    refine .of_frames (fun frame mem => ?_) ⟨fits.root, fits.whole, fits.content⟩
    obtain ⟨name, content⟩ := fits.inside frame mem
    exact ⟨rfl, rfl, fits.known frame mem, rfl, ⟨rfl, name⟩, ⟨rfl, content⟩, rfl, rfl, rfl⟩
  have begins : sim.Related false { tokenizer, tokens := { styled } }
      { tokenizer := other, tokens := { styled := styledToo } } :=
    ⟨first.any coherent, second.any coherent, keeps⟩
  have isNone : previous.isNone = twin.isNone := by
    simpa using congrArg Option.isNone same
  obtain ⟨answer, answers, alike⟩ := sim.reads isNone begins resumed inside run
  obtain ⟨left, right, keeps⟩ := alike.progress
  have equal (a b : ScopePath) (paths : sim.Paths a b) : a = b := paths.1
  have nesting := alike.nesting.eq equal
  have own : sim.Nestings true reading.nesting reading.nesting := by
    simpa only [← nesting] using alike.nesting
  refine ⟨answer, answers, nesting.symm, left, right, ?_, keeps, alike.length,
    alike.length_eq, alike.reached⟩
  obtain ⟨root, whole, content⟩ := own.ground
  constructor
  · intro frame mem
    have size : reading.tokenizer.compilation = origin.base library true := left.compilation_eq
    rw [size]
    exact (own.frames mem).known
  · intro frame mem
    exact ⟨(own.frames mem).nameScopes.2, (own.frames mem).contentScopes.2⟩
  · exact root.trans left.root.symm
  · exact whole
  · exact content

end Tokenizer

end ScopeTokenizer
