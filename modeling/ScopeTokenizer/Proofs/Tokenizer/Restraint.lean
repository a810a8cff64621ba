import ScopeTokenizer.Proofs.Pattern.Searching
import ScopeTokenizer.Proofs.Reading.Ensuring
import ScopeTokenizer.Proofs.Tokenizer.Kinship

/-!
# Restrained tokenizers

There are two ways for reading to go round in circles. The text of a capture can be read again by
the rule that it was captured by, and an injection that is a region can offer its closing pattern
where it is not open. A tokenizer that has neither is restrained: the matches that it takes lie
ahead, and only an open region is closed.
-/

namespace ScopeTokenizer

open Grammar Pattern Style

variable {engine : Engine}

/-- Whether a rule opens a region that a pattern closes. -/
def Grammar.RuleKind.isRegion : RuleKind → Bool
  | .region _ _ _ _ _ => true
  | .single _ | .container _ _ | .lines _ _ _ _ | .capture _ _ => false

/-- Whether a rule has the text of a capture read again. -/
def Grammar.RuleKind.rereads : RuleKind → Bool
  | .capture _ inner => inner.isSome
  | .single _ | .container _ _ | .region _ _ _ _ _ | .lines _ _ _ _ => false

namespace Tokenizer

/-- All rules of a tokenizer, those of its injections included. -/
def rules (tokenizer : Tokenizer engine) (library : Library) : RuleTable :=
  (tokenizer.base library true).table

/-- No text of a capture is read again, and no injection is a region that a pattern closes. -/
structure Restrained (tokenizer : Tokenizer engine) (library : Library) : Prop where
  captures : ∀ id rule, (tokenizer.rules library).rule? id = some rule →
    rule.kind.rereads = false
  injections : ∀ injection ∈ (tokenizer.collected library).1,
    ∀ rule, (tokenizer.rules library).rule? injection.rule = some rule →
      rule.kind.isRegion = false

/-- There are only finitely many rules to look at. -/
theorem restrained_iff (tokenizer : Tokenizer engine) (library : Library) :
    tokenizer.Restrained library ↔
      (∀ id ∈ List.range ((tokenizer.rules library).size + 1),
        ∀ rule ∈ (tokenizer.rules library).rule? id, rule.kind.rereads = false) ∧
      ∀ injection ∈ (tokenizer.collected library).1,
        ∀ rule ∈ (tokenizer.rules library).rule? injection.rule, rule.kind.isRegion = false := by
  constructor
  · intro restrained
    exact ⟨fun id _ rule found => restrained.captures id rule found, restrained.injections⟩
  · rintro ⟨captures, injections⟩
    refine ⟨fun id rule found => captures id ?_ rule found, injections⟩
    exact List.mem_range.mpr (Nat.lt_succ_of_le (RuleTable.le_size_of_rule? found))

instance (tokenizer : Tokenizer engine) (library : Library) :
    Decidable (tokenizer.Restrained library) :=
  decidable_of_iff _ (tokenizer.restrained_iff library).symm

/-- A match of a search inside a rule, from a position of a line on. -/
structure FoundIn (table : RuleTable) (id : RuleId) (line : Line) (position : Nat)
    (found : SetMatch Target) : Prop where
  ahead : position ≤ found.start
  start_le : found.start ≤ found.stop
  inside : found.stop ≤ line.length
  closing : found.label = .closing → ∃ rule, table.rule? id = some rule ∧ rule.kind.isRegion = true

/-- Only a region has a closing pattern, which is the one that its rule says. -/
theorem exists_of_closing_mem_patternsOf {table : RuleTable} {rule : Rule} {filled : Option String}
    {anchors : Anchors} {text : String}
    (mem : (Target.closing, text) ∈ patternsOf table rule filled anchors) :
    ∃ contentName opening closing last inner,
      rule.kind = .region contentName opening closing last inner ∧
        text = patternText closing.pattern filled anchors := by
  have among : (Target.closing, text) ∉ innerPatterns table rule anchors := by
    intro mem
    obtain ⟨entry, -, is⟩ := List.mem_map.mp mem
    cases (Prod.mk.inj is).1
  obtain ⟨id, name, kind⟩ := rule
  cases kind with
  | region contentName opening closing last inner =>
    refine ⟨contentName, opening, closing, last, inner, rfl, ?_⟩
    cases last with
    | true =>
      obtain mem | mem := List.mem_append.mp mem
      · exact absurd mem among
      · exact (Prod.mk.inj (List.mem_singleton.mp mem)).2
    | false =>
      obtain is | mem := List.mem_cons.mp mem
      · exact (Prod.mk.inj is).2
      · exact absurd mem among
  | single | container | lines | capture => exact absurd mem among

variable {origin tokenizer : Tokenizer engine} {library : Library} {stage : Bool} {line : Line}
  {cursor : Cursor}

/-- The rule of the grammar itself is a container. -/
theorem Coherent.root_container (coherent : tokenizer.Coherent) (library : Library) :
    ∃ rule, (tokenizer.rules library).rule? tokenizer.root = some rule ∧
      Compile.IsContainer rule.kind := by
  have root := (coherent.collected library).1.root
  rwa [(tokenizer.collected_root_styler library).1] at root

/-- A rule that is there at any time stays what it is. -/
theorem Descends.rules_eq (descends : Descends origin library stage tokenizer) {id : RuleId}
    {rule : Rule} (found : tokenizer.rule? id = some rule) :
    (origin.rules library).rule? id = some rule := by
  obtain ⟨-, grows, -⟩ := descends.coherent.collected library
  rw [descends.compilation] at grows
  exact (grows.table.kept id (RuleTable.le_size_of_rule? found)).trans found

/-! ## Matches -/

open Reading

/-- What becomes of a tokenizer while a line is read with it. -/
abbrev Kin (origin : Tokenizer engine) (library : Library) : Tokenizer engine → Prop :=
  Descends origin library false

/-- The matches that a search inside a rule may find, with a tokenizer that remains kin. -/
abbrev Finds (origin : Tokenizer engine) (library : Library) (id : RuleId) (line : Line)
    (position : Nat) (found : Option (SetMatch Target)) (tokenizer : Tokenizer engine) : Prop :=
  (∀ given ∈ found, FoundIn (origin.rules library) id line position given) ∧
    origin.Kin library tokenizer

theorem ensures_rule? (id : RuleId) :
    Ensures library (origin.Kin library) (Reading.rule? id)
      (fun rule tokenizer =>
        (∀ found ∈ rule, (origin.rules library).rule? id = some found) ∧
          origin.Kin library tokenizer) := by
  refine (Ensures.rule? id).weaken (fun _ kin => kin) ?_
  rintro rule tokenizer ⟨rfl, kin⟩
  exact ⟨fun found is => kin.rules_eq is, kin⟩

theorem ensures_enter (path : ScopePath) (scopes : Option String) :
    Ensures library (origin.Kin library) (Reading.enter path scopes) (fun _ => origin.Kin library) :=
  Ensures.enter fun _ kin => (kin.enterAll path scopes).2

theorem ensures_search (forward : engine.Forward) (inside : cursor.position ≤ line.length)
    {id : RuleId} {rule : Rule} (filled : Option String) :
    Ensures library (fun tokenizer => some rule = tokenizer.rule? id ∧ origin.Kin library tokenizer)
      (search line cursor rule filled) (origin.Finds library id line cursor.position) := by
  let Built (scanner : Scanner engine) : Prop :=
    ∀ member ∈ scanner.members, member.label = .closing →
      ∃ rule, (origin.rules library).rule? id = some rule ∧ rule.kind.isRegion = true
  have asked : Ensures library
      (fun tokenizer => some rule = tokenizer.rule? id ∧ origin.Kin library tokenizer)
      (use fun tokenizer => tokenizer.ruleScanner rule filled cursor.anchors)
      (fun scanner tokenizer => Built scanner ∧ origin.Kin library tokenizer) := by
    apply Ensures.use
    rintro tokenizer ⟨found, kin⟩
    obtain ⟨built, coherent, same⟩ :=
      kin.coherent.ruleScanner found.symm filled cursor.anchors
    constructor
    · intro member mem label
      rw [built] at mem
      obtain ⟨⟨target, text⟩, patterns, is, -⟩ := PatternSet.exists_of_mem_ofList mem
      obtain rfl := is.trans label
      obtain ⟨_, _, _, _, _, region, -⟩ := exists_of_closing_mem_patternsOf patterns
      exact ⟨rule, kin.rules_eq found.symm, by rw [region]; rfl⟩
    · exact kin.sameRules coherent same
  unfold search
  apply Ensures.bind asked
  intro scanner
  apply Ensures.of_and
  intro built
  refine Ensures.pure fun tokenizer kin => ⟨fun found run => ?_, kin⟩
  obtain ⟨ahead, start_le, below⟩ := PatternSet.findAt_forward forward inside run
  obtain ⟨member, mem, label⟩ := PatternSet.mem_of_findAt run
  exact ⟨ahead, start_le, below, fun is => built member mem (label.trans is)⟩

theorem ensures_regularMatch (forward : engine.Forward) (inside : cursor.position ≤ line.length) :
    Ensures library (origin.Kin library) (regularMatch line cursor)
      (origin.Finds library cursor.nesting.top.rule line cursor.position) := by
  unfold regularMatch
  apply Ensures.bind (Ensures.rule? _)
  intro rule
  cases rule with
  | none => exact Ensures.of_right (Ensures.pure fun tokenizer kin => ⟨nofun, kin⟩)
  | some rule => exact ensures_search forward inside _

/-- An injected match closes nothing, so it may be taken inside any rule. -/
theorem ensures_bestInjected (restrained : origin.Restrained library) (forward : engine.Forward)
    (inside : cursor.position ≤ line.length) (id : RuleId) (names : List String)
    {injections : List Injection}
    (collected : ∀ injection ∈ injections, injection ∈ (origin.collected library).1)
    {best : Option Injected}
    (sound : ∀ injected ∈ best,
      FoundIn (origin.rules library) id line cursor.position injected.2) :
    Ensures library (origin.Kin library) (bestInjected line cursor names injections best)
      (fun best tokenizer =>
        (∀ injected ∈ best, FoundIn (origin.rules library) id line cursor.position injected.2) ∧
          origin.Kin library tokenizer) := by
  induction injections generalizing best with
  | nil => exact Ensures.pure fun tokenizer kin => ⟨sound, kin⟩
  | cons injection others ih =>
    have others_collected := fun other mem => collected other (List.mem_cons_of_mem _ mem)
    have skip := ih others_collected sound
    unfold bestInjected
    split
    · apply Ensures.bind (Ensures.rule? _)
      intro rule
      cases rule with
      | none => exact skip.of_right
      | some rule =>
        apply Ensures.bind (ensures_search forward inside none)
        intro found
        apply Ensures.of_and
        intro given
        cases found with
        | none => exact skip
        | some found =>
          have better : ∀ injected ∈ some (injection.priority, found),
              FoundIn (origin.rules library) id line cursor.position injected.2 := by
            rintro injected ⟨⟩
            have own := given found rfl
            refine { own with closing := fun label => ?_ }
            obtain ⟨rule, compiled, region⟩ := own.closing label
            rw [restrained.injections injection (collected injection List.mem_cons_self) rule
              compiled] at region
            cases region
          dsimp only
          split
          · exact skip
          · split
            · exact Ensures.pure fun tokenizer kin => ⟨better, kin⟩
            · exact ih others_collected better
    · exact skip

theorem ensures_nextMatch (coherent : origin.Coherent) (restrained : origin.Restrained library)
    (forward : engine.Forward) (inside : cursor.position ≤ line.length) :
    Ensures library (origin.Kin library) (nextMatch line cursor)
      (origin.Finds library cursor.nesting.top.rule line cursor.position) := by
  unfold nextMatch
  apply Ensures.bind (ensures_regularMatch forward inside)
  intro regular
  apply Ensures.of_and
  intro sound
  apply Ensures.bind Ensures.read
  intro given
  apply Ensures.of_and
  rintro rfl
  have asked : Ensures given (origin.Kin given) (use fun tokenizer => tokenizer.collected given)
      (fun injections tokenizer =>
        injections = (origin.collected given).1 ∧ origin.Kin given tokenizer) :=
    Ensures.use fun tokenizer kin => ⟨kin.injections, kin.collected.early coherent⟩
  apply Ensures.bind asked
  intro injections
  apply Ensures.of_and
  rintro rfl
  split
  · exact Ensures.pure fun tokenizer kin => ⟨sound, kin⟩
  · have noneFound : ∀ injected ∈ (none : Option Injected), FoundIn (origin.rules given)
        cursor.nesting.top.rule line cursor.position injected.2 := nofun
    apply Ensures.bind (ensures_bestInjected restrained forward inside _ cursor.scopes.names
      (fun _ mem => mem) noneFound)
    intro best
    apply Ensures.of_and
    intro injected
    exact Ensures.pure fun tokenizer kin =>
      ⟨fun found run => of_better sound injected run, kin⟩

/-! ## Captures -/

section Captures

variable {reread : Line → Cursor → Reading engine Nesting} {captures : Captures}

theorem ensures_openCapture (restrained : origin.Restrained library) (opened : List OpenCapture)
    (id : RuleId) (span : Span) :
    Ensures library (origin.Kin library) (openCapture reread line cursor captures opened id span)
      (fun _ => origin.Kin library) := by
  unfold openCapture
  apply Ensures.bind (Ensures.closeUpTo _ _)
  intro opened
  apply Ensures.bind (Ensures.cut _ _)
  intro _
  apply Ensures.bind (ensures_rule? id)
  intro rule
  apply Ensures.of_and
  intro compiled
  have unchanged : Ensures library (origin.Kin library) (pure opened : Reading engine _)
      (fun _ => origin.Kin library) := Ensures.pure fun _ kin => kin
  cases rule with
  | none => exact unchanged
  | some rule =>
    obtain ⟨number, name, kind⟩ := rule
    cases kind with
    | single | container | region | lines => exact unchanged
    | capture contentName inner =>
      cases inner with
      | some inner => cases restrained.captures id _ (compiled _ rfl)
      | none =>
        dsimp only
        split
        · exact Ensures.bind (ensures_enter _ _) fun _ => Ensures.pure fun _ kin => kin
        · exact unchanged

theorem ensures_openCaptures (restrained : origin.Restrained library) (stop : Nat)
    (groups : List (Option RuleId × Option Span)) (opened : List OpenCapture) :
    Ensures library (origin.Kin library)
      (openCaptures reread line cursor captures stop groups opened)
      (fun _ => origin.Kin library) := by
  induction groups generalizing opened with
  | nil => exact Ensures.pure fun _ kin => kin
  | cons group others ih =>
    obtain ⟨id, span⟩ := group
    cases id with
    | none => simpa only [openCaptures] using ih opened
    | some id =>
      cases span with
      | none => simpa only [openCaptures] using ih opened
      | some span =>
        simp only [openCaptures]
        split
        · exact ih opened
        · split
          · exact Ensures.pure fun _ kin => kin
          · exact Ensures.bind (ensures_openCapture restrained opened id span) ih

theorem ensures_readCaptures (restrained : origin.Restrained library)
    (rules : List (Option RuleId)) :
    Ensures library (origin.Kin library) (readCaptures reread line cursor captures rules)
      (fun _ => origin.Kin library) := by
  unfold readCaptures
  split
  · exact Ensures.bind (ensures_openCaptures restrained _ _ _) fun _ => Ensures.closeAll _
  · exact Ensures.pure fun _ kin => kin

end Captures

end Tokenizer

end ScopeTokenizer
