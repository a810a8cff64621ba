import ScopeTokenizer.Proofs.Pattern.Searching
import ScopeTokenizer.Proofs.Reading.Simulation

/-!
# Readings in parallel

Two readings of a line that begin alike go on alike: one lemma for each operation of reading,
from asking for a rule to reading a whole line.
-/

namespace ScopeTokenizer

open Grammar Pattern Style

variable {engine : Engine}

namespace Simulation

open Reading

variable (sim : Simulation engine) {stage : Bool}

/-! ## Asking the tokenizer -/

section Asking

/-- Asking for something gives an answer at once. -/
theorem run_use {α : Type} (ask : Tokenizer engine → α × Tokenizer engine × List Warning)
    (library : Library) (p : Progress engine) :
    use ask library p = some ((ask p.tokenizer).1, p.answered (ask p.tokenizer)) := rfl

theorem follows_use {α β : Type} {library : Library} {before : Between engine}
    {first : Tokenizer engine → α × Tokenizer engine × List Warning}
    {second : Tokenizer engine → β × Tokenizer engine × List Warning}
    {after : α → β → Between engine}
    (given : ∀ p q, before p q → after (first p.tokenizer).1 (second q.tokenizer).1
      (p.answered (first p.tokenizer)) (q.answered (second q.tokenizer))) :
    Follows library before (use first) (use second) after := by
  intro p q related a p' run
  rw [run_use, Option.some.injEq, Prod.mk.injEq] at run
  obtain ⟨rfl, rfl⟩ := run
  exact ⟨_, _, run_use second library q, given p q related⟩

theorem follows_ruleScanner {id : RuleId} {rule : Rule} (compiled : sim.Compiled stage id rule)
    (filled : Option String) (anchors : Anchors) :
    Follows sim.library (sim.Related stage)
      (use fun tokenizer => tokenizer.ruleScanner rule filled anchors)
      (use fun tokenizer => tokenizer.ruleScanner rule filled anchors)
      (fun a b p q => (a = b ∧ ∀ member ∈ a.members, ∀ ref, member.label = .rule ref →
        sim.Known stage ref) ∧ sim.Related stage p q) :=
  follows_use fun p q related => by
    obtain ⟨same, labels, after⟩ := sim.ruleScanner filled anchors related compiled
    exact ⟨⟨same, labels⟩, after⟩

theorem follows_conditionScanner {id number : RuleId}
    {name contentName : Option Scope.Template} {opening condition : Matching} {inner : Inner}
    (compiled : sim.Compiled stage id ⟨number, name, .lines contentName opening condition inner⟩)
    (filled : Option String) (anchors : Anchors) :
    Follows sim.library (sim.Related stage)
      (use fun tokenizer => tokenizer.conditionScanner number condition.pattern filled anchors)
      (use fun tokenizer => tokenizer.conditionScanner number condition.pattern filled anchors)
      (fun a b p q => a = b ∧ sim.Related stage p q) :=
  follows_use fun _ _ related => sim.conditionScanner filled anchors related compiled

theorem follows_collected :
    Follows sim.library (sim.Related stage)
      (use fun tokenizer => tokenizer.collected sim.library)
      (use fun tokenizer => tokenizer.collected sim.library)
      (fun a b p q => (a = b ∧ ∀ injection ∈ a, sim.Known true injection.rule) ∧
        sim.Related true p q) :=
  follows_use fun p q related => by
    obtain ⟨same, known, after⟩ := sim.collected (sim.related_early related)
    exact ⟨⟨same, known⟩, after⟩

theorem follows_rule? {id : RuleId} (known : sim.Known stage id) :
    Follows sim.library (sim.Related stage) (Reading.rule? id) (Reading.rule? id)
      (fun a b p q => (a = b ∧ ∀ rule, a = some rule → sim.Compiled stage id rule) ∧
        sim.Related stage p q) := by
  intro p q related a p' run
  cases run
  exact ⟨_, q, rfl, sim.rule? related known, related⟩

theorem follows_read :
    Follows sim.library (sim.Related stage) (read : Reading engine Library) read
      (fun a b p q => (a = b ∧ a = sim.library) ∧ sim.Related stage p q) := by
  intro p q related a p' run
  cases run
  exact ⟨_, q, rfl, ⟨rfl, rfl⟩, related⟩

theorem follows_enter {a b : ScopePath} (paths : sim.Paths a b) (scopes : Option String) :
    Follows sim.library (sim.Related stage) (Reading.enter a scopes) (Reading.enter b scopes)
      (fun a b p q => sim.Paths a b ∧ sim.Related stage p q) :=
  follows_use fun _ _ related => sim.enter scopes related paths

theorem follows_warn (warning : Warning) :
    Follows sim.library (sim.Related stage) (Reading.warn warning) (Reading.warn warning)
      (fun _ _ => sim.Related stage) := by
  intro p q related a p' run
  cases run
  exact ⟨(), q.warn warning, rfl, sim.warn warning related⟩

theorem follows_cut {a b : ScopePath} {stop : Nat} (paths : sim.Paths a b) (here : sim.Stop stop) :
    Follows sim.library (sim.Related stage) (Reading.cut a stop) (Reading.cut b stop)
      (fun _ _ => sim.Related stage) := by
  intro p q related _ p' run
  cases run
  exact ⟨(), q.cut b stop, rfl, sim.cut related paths here⟩

end Asking

/-! ## Matches -/

section Matches

variable {sim} {first second : Cursor} {line : Line}

theorem Cursors.anchors_eq (cursors : sim.Cursors stage first second) :
    first.anchors = second.anchors := by
  simp only [Cursor.anchors, cursors.position, cursors.firstLine, cursors.anchor]

theorem Cursors.scopes (cursors : sim.Cursors stage first second) :
    sim.Paths first.scopes second.scopes :=
  cursors.nesting.top.contentScopes

theorem Cursors.late (cursors : sim.Cursors stage first second) :
    sim.Cursors true first second :=
  { cursors with nesting := cursors.nesting.late }

/-- Another nesting may be taken in place of that of the cursor. -/
theorem Cursors.withNesting (cursors : sim.Cursors stage first second) {nesting twin : Nesting}
    (alike : sim.Nestings stage nesting twin) :
    sim.Cursors stage { first with nesting } { second with nesting := twin } :=
  ⟨cursors.position, cursors.firstLine, cursors.anchor, alike⟩

/-- What is known of every match: where it lies, and that its rule is known. -/
structure Found (sim : Simulation engine) (stage : Bool) (found : SetMatch Target) : Prop where
  start : sim.Stop found.start
  stop : sim.Stop found.stop
  captures : ∀ span, some span ∈ found.captures → sim.Stop span.1 ∧ sim.Stop span.2
  known : ∀ ref, found.label = .rule ref → sim.Known stage ref

theorem Found.late {found : SetMatch Target} (given : sim.Found stage found) :
    sim.Found true found :=
  { given with known := fun ref label => sim.known_late (given.known ref label) }

/-- The same match or none, and related progress. -/
def SameMatch (sim : Simulation engine) (stage : Bool) (a b : Option (SetMatch Target)) :
    Between engine :=
  fun p q => (a = b ∧ ∀ found, a = some found → sim.Found stage found) ∧ sim.Related stage p q

theorem follows_search (cursors : sim.Cursors stage first second) {id : RuleId} {rule : Rule}
    (compiled : sim.Compiled stage id rule) (inside : sim.Stop line.length)
    (filled : Option String) :
    Follows sim.library (sim.Related stage) (search line first rule filled)
      (search line second rule filled) (sim.SameMatch stage) := by
  unfold search
  rw [cursors.anchors_eq, cursors.position]
  apply Follows.bind (sim.follows_ruleScanner compiled filled second.anchors)
  intro a b
  apply Follows.of_and
  rintro ⟨rfl, labels⟩
  refine Follows.pure fun p q related => ⟨⟨rfl, fun found run => ?_⟩, related⟩
  obtain ⟨start, stop, captures⟩ := sim.stop_of_found inside run
  obtain ⟨member, mem, label⟩ := PatternSet.mem_of_findAt run
  exact ⟨start, stop, captures, fun ref is => labels member mem ref (label.trans is)⟩

theorem follows_regularMatch (cursors : sim.Cursors stage first second)
    (inside : sim.Stop line.length) :
    Follows sim.library (sim.Related stage) (regularMatch line first)
      (regularMatch line second) (sim.SameMatch stage) := by
  have frames := cursors.nesting.top
  have asked := sim.follows_rule? frames.known
  unfold regularMatch
  rw [← frames.rule, ← frames.pattern]
  apply Follows.bind asked
  intro a b
  apply Follows.of_and
  rintro ⟨rfl, compiled⟩
  cases a with
  | none => exact Follows.pure fun p q related => ⟨⟨rfl, nofun⟩, related⟩
  | some rule => exact follows_search cursors (compiled rule rfl) inside _

/-- The same injected match or none, and related progress. -/
def SameInjected (sim : Simulation engine) (a b : Option Injected) : Between engine :=
  fun p q => (a = b ∧ ∀ injected, a = some injected → sim.Found true injected.2) ∧
    sim.Related true p q

theorem follows_bestInjected (cursors : sim.Cursors true first second)
    (inside : sim.Stop line.length) (names : List String) {injections : List Injection}
    (known : ∀ injection ∈ injections, sim.Known true injection.rule) {best : Option Injected}
    (sound : ∀ injected, best = some injected → sim.Found true injected.2) :
    Follows sim.library (sim.Related true) (bestInjected line first names injections best)
      (bestInjected line second names injections best) sim.SameInjected := by
  induction injections generalizing best with
  | nil => exact Follows.pure fun p q related => ⟨⟨rfl, sound⟩, related⟩
  | cons injection others ih =>
    have skip := ih (fun other mem => known other (List.mem_cons_of_mem _ mem)) sound
    unfold bestInjected
    by_cases holds : injection.matcher.holds names = true
    · rw [if_pos holds, if_pos holds]
      apply Follows.bind (sim.follows_rule? (known injection List.mem_cons_self))
      intro a b
      apply Follows.of_and
      rintro ⟨rfl, compiled⟩
      cases a with
      | none => exact skip
      | some rule =>
        apply Follows.bind (follows_search cursors (compiled rule rfl) inside none)
        intro a b
        apply Follows.of_and
        rintro ⟨rfl, given⟩
        cases a with
        | none => exact skip
        | some found =>
          have better : ∀ injected, some (injection.priority, found) = some injected →
              sim.Found true injected.2 := by
            rintro injected ⟨⟩
            exact given found rfl
          simp only [cursors.position]
          split
          · exact skip
          · split
            · exact Follows.pure fun p q related => ⟨⟨rfl, better⟩, related⟩
            · exact ih (fun other mem => known other (List.mem_cons_of_mem _ mem)) better
    · rw [if_neg holds, if_neg holds]
      exact skip

theorem follows_nextMatch (cursors : sim.Cursors stage first second)
    (inside : sim.Stop line.length) :
    Follows sim.library (sim.Related stage) (nextMatch line first) (nextMatch line second)
      (sim.SameMatch true) := by
  unfold nextMatch
  apply Follows.bind (follows_regularMatch cursors inside)
  intro a b
  apply Follows.of_and
  rintro ⟨rfl, sound⟩
  have late : ∀ found, a = some found → sim.Found true found :=
    fun found is => (sound found is).late
  apply Follows.bind (follows_read sim)
  intro given other
  apply Follows.of_and
  rintro ⟨rfl, rfl⟩
  apply Follows.bind sim.follows_collected
  intro injections _
  apply Follows.of_and
  rintro ⟨rfl, known⟩
  rw [cursors.position]
  split
  · exact Follows.pure fun p q related => ⟨⟨rfl, late⟩, related⟩
  · rw [sim.names_eq cursors.scopes]
    have noneFound : ∀ injected : Injected, none = some injected → sim.Found true injected.2 :=
      nofun
    apply Follows.bind (follows_bestInjected cursors.late inside _ known noneFound)
    intro best _
    apply Follows.of_and
    rintro ⟨rfl, injected⟩
    exact Follows.pure fun p q related =>
      ⟨⟨rfl, fun found run => of_better late injected run⟩, related⟩

end Matches

/-! ## Captures -/

section Captures

variable {sim} {first second : Cursor} {line : Line} {captures : Captures}

/-- Ways to read the text of a capture again that keep the relation. -/
def Rereads (sim : Simulation engine) (stage : Bool)
    (first second : Line → Cursor → Reading engine Nesting) : Prop :=
  ∀ line a b, sim.Stop line.length → sim.Cursors stage a b →
    Follows sim.library (sim.Related stage) (first line a) (second line b)
      (fun n m p q => sim.Nestings true n m ∧ sim.Related true p q)

variable {reread other : Line → Cursor → Reading engine Nesting}

/-- Open captures that end at the same position. -/
structure SameCapture (sim : Simulation engine) (a b : OpenCapture) : Prop where
  scopes : sim.Paths a.scopes b.scopes
  stop : a.stop = b.stop
  inside : sim.Stop a.stop

theorem innermost_paths {a b : ScopePath} (paths : sim.Paths a b)
    {captures others : List OpenCapture}
    (same : List.Forall₂ sim.SameCapture captures others) :
    sim.Paths (innermost a captures) (innermost b others) := by
  cases same with
  | nil => exact paths
  | cons head _ => exact head.scopes

theorem follows_closeUpTo (position : Nat) {a b : List OpenCapture}
    (same : List.Forall₂ sim.SameCapture a b) :
    Follows sim.library (sim.Related stage) (closeUpTo position a) (closeUpTo position b)
      (fun a b p q => List.Forall₂ sim.SameCapture a b ∧ sim.Related stage p q) := by
  induction same with
  | nil => exact Follows.pure fun p q related => ⟨.nil, related⟩
  | @cons capture twin others twins head tail ih =>
    unfold closeUpTo
    rw [← head.stop]
    split
    · exact Follows.bind (sim.follows_cut head.scopes head.inside) fun _ _ => ih
    · exact Follows.pure fun p q related => ⟨.cons head tail, related⟩

theorem follows_closeAll {a b : List OpenCapture} (same : List.Forall₂ sim.SameCapture a b) :
    Follows sim.library (sim.Related stage) (closeAll a) (closeAll b)
      (fun _ _ => sim.Related stage) := by
  unfold closeAll
  induction same with
  | nil => exact Follows.pure fun p q related => related
  | cons head tail ih =>
    rw [List.forM_eq_forM, List.forM_cons, List.forM_cons, ← head.stop]
    exact Follows.bind (sim.follows_cut head.scopes head.inside) fun _ _ => ih

theorem follows_again (rereads : sim.Rereads stage reread other)
    (cursors : sim.Cursors stage first second) (inside : sim.Stop line.length) (rule : Rule)
    {inner : RuleId} (known : sim.Known stage inner) (span : Span) :
    Follows sim.library (sim.Related stage)
      (again reread line first captures rule inner span)
      (again other line second captures rule inner span) (fun _ _ => sim.Related stage) := by
  unfold again
  apply Follows.bind (sim.follows_enter cursors.scopes (rule.nameFor line captures))
  intro _ _
  apply Follows.of_and
  intro names
  apply Follows.bind (sim.follows_enter names (rule.contentNameFor line captures))
  intro _ _
  apply Follows.of_and
  intro contents
  have shorter : sim.Stop (line.truncate span.2).length := by
    rw [Line.length_truncate]
    exact sim.stop_of_le inside (Nat.min_le_right _ _)
  refine Follows.bind (rereads _ _ _ shorter ⟨rfl, ?_, rfl, ?_⟩) fun _ _ => ?_
  · simp only [cursors.firstLine]
  · exact cursors.nesting.push
      ⟨rfl, rfl, known, rfl, names, contents, rfl, rfl, rfl⟩
  · exact Follows.pure fun p q related => sim.related_any related.2

theorem follows_openCapture (rereads : sim.Rereads stage reread other)
    (cursors : sim.Cursors stage first second) (inside : sim.Stop line.length)
    {a b : List OpenCapture} (same : List.Forall₂ sim.SameCapture a b) {id : RuleId}
    (known : sim.Known stage id) {span : Span} (start : sim.Stop span.1)
    (stop : sim.Stop span.2) :
    Follows sim.library (sim.Related stage)
      (openCapture reread line first captures a id span)
      (openCapture other line second captures b id span)
      (fun a b p q => List.Forall₂ sim.SameCapture a b ∧ sim.Related stage p q) := by
  unfold openCapture
  apply Follows.bind (follows_closeUpTo span.1 same)
  intro a b
  apply Follows.of_and
  intro same
  have around := innermost_paths cursors.scopes same
  apply Follows.bind (sim.follows_cut around start)
  intro _ _
  apply Follows.bind (sim.follows_rule? known)
  intro rule _
  apply Follows.of_and
  rintro ⟨rfl, compiled⟩
  have unchanged : Follows sim.library (sim.Related stage) (pure a : Reading engine _) (pure b)
      (fun a b p q => List.Forall₂ sim.SameCapture a b ∧ sim.Related stage p q) :=
    Follows.pure fun p q related => ⟨same, related⟩
  cases rule with
  | none => exact unchanged
  | some rule =>
    obtain ⟨number, name, kind⟩ := rule
    cases kind with
    | single | container | region | lines => exact unchanged
    | capture contentName inner =>
      cases inner with
      | some inner =>
        have knownInner : sim.Known stage inner :=
          sim.known_reference (compiled _ rfl) (by simp [Rule.references, RuleKind.references])
        exact Follows.bind (follows_again rereads cursors inside _ knownInner span)
          fun _ _ => unchanged
      | none =>
        simp only
        cases (Rule.nameFor ⟨number, name, .capture contentName none⟩ line captures) with
        | none => exact unchanged
        | some name =>
          apply Follows.bind (sim.follows_enter around (some name))
          intro _ _
          apply Follows.of_and
          intro named
          exact Follows.pure fun p q related => ⟨.cons ⟨named, rfl, stop⟩ same, related⟩

theorem follows_openCaptures (rereads : sim.Rereads stage reread other)
    (cursors : sim.Cursors stage first second) (inside : sim.Stop line.length) (stop : Nat)
    {groups : List (Option RuleId × Option Span)}
    (known : ∀ id span, (some id, some span) ∈ groups →
      sim.Known stage id ∧ sim.Stop span.1 ∧ sim.Stop span.2)
    {a b : List OpenCapture} (same : List.Forall₂ sim.SameCapture a b) :
    Follows sim.library (sim.Related stage)
      (openCaptures reread line first captures stop groups a)
      (openCaptures other line second captures stop groups b)
      (fun a b p q => List.Forall₂ sim.SameCapture a b ∧ sim.Related stage p q) := by
  induction groups generalizing a b with
  | nil => exact Follows.pure fun p q related => ⟨same, related⟩
  | cons group others ih =>
    have rest := fun {a b} (same : List.Forall₂ sim.SameCapture a b) =>
      ih (fun id span mem => known id span (List.mem_cons_of_mem _ mem)) same
    obtain ⟨id, span⟩ := group
    cases id with
    | none => simpa only [openCaptures] using rest same
    | some id =>
      cases span with
      | none => simpa only [openCaptures] using rest same
      | some span =>
        obtain ⟨knownId, start, last⟩ := known id span List.mem_cons_self
        simp only [openCaptures]
        split
        · exact rest same
        · split
          · exact Follows.pure fun p q related => ⟨same, related⟩
          · exact Follows.bind
              (follows_openCapture rereads cursors inside same knownId start last)
              fun _ _ => Follows.of_and fun same => rest same

theorem follows_readCaptures (rereads : sim.Rereads stage reread other)
    (cursors : sim.Cursors stage first second) (inside : sim.Stop line.length)
    (spans : ∀ span, some span ∈ captures → sim.Stop span.1 ∧ sim.Stop span.2)
    {rules : List (Option RuleId)} (known : ∀ id, some id ∈ rules → sim.Known stage id) :
    Follows sim.library (sim.Related stage) (readCaptures reread line first captures rules)
      (readCaptures other line second captures rules) (fun _ _ => sim.Related stage) := by
  have nothing : Follows sim.library (sim.Related stage) (pure () : Reading engine _) (pure ())
      (fun _ _ => sim.Related stage) := Follows.pure fun p q related => related
  unfold readCaptures
  cases captures with
  | nil => exact nothing
  | cons whole groups =>
    cases whole with
    | none => exact nothing
    | some whole =>
      refine Follows.bind (follows_openCaptures rereads cursors inside whole.2 ?_ .nil)
        fun a b => Follows.of_and follows_closeAll
      intro id span mem
      obtain ⟨ids, captured⟩ := List.of_mem_zip mem
      exact ⟨known id ids, spans span captured⟩

end Captures

/-! ## Steps -/

section Steps

variable {sim} {first second : Cursor} {line : Line}
  {reread other : Line → Cursor → Reading engine Nesting}

/-- Outcomes that lead to the same place. If the line is done, its tokens reach its end. -/
def SameOutcome (sim : Simulation engine) (line : Line) (a b : Outcome) : Between engine :=
  fun p q => sim.Outcomes a b ∧ sim.Related true p q ∧
    ∀ nesting, a = .done nesting → line.length ≤ p.tokens.stop

theorem Cursors.advance (cursors : sim.Cursors stage first second) (stop : Nat) :
    sim.Cursors stage (first.advance stop) (second.advance stop) := by
  unfold Cursor.advance
  rw [cursors.position]
  split
  · exact ⟨rfl, rfl, cursors.anchor, cursors.nesting⟩
  · exact cursors

theorem follows_next (cursors : sim.Cursors true first second) :
    Follows sim.library (sim.Related true) (pure (.next first) : Reading engine Outcome)
      (pure (.next second)) (sim.SameOutcome line) :=
  Follows.pure fun _ _ related => ⟨.next cursors, related, nofun⟩

theorem follows_finish (inside : sim.Stop line.length) {nesting twin : Nesting}
    (alike : sim.Nestings true nesting twin) :
    Follows sim.library (sim.Related true) (finish line nesting : Reading engine Outcome)
      (finish line twin) (sim.SameOutcome line) := by
  intro p q related a p' run
  cases run
  refine ⟨_, _, rfl, .done alike, sim.cut related alike.top.contentScopes inside, ?_⟩
  rintro _ -
  simp only [LineTokens.stop_add]
  exact Nat.le_max_right _ _

theorem follows_close (rereads : sim.Rereads true reread other)
    (cursors : sim.Cursors true first second) (inside : sim.Stop line.length)
    {found : SetMatch Target} (given : sim.Found true found) :
    Follows sim.library (sim.Related true) (close reread line first found)
      (close other line second found) (sim.SameOutcome line) := by
  have frames := cursors.nesting.top
  unfold close
  dsimp only
  rw [← frames.rule]
  apply Follows.bind (sim.follows_cut cursors.scopes given.start)
  intro _ _
  apply Follows.bind (sim.follows_rule? frames.known)
  intro rule _
  apply Follows.of_and
  rintro ⟨rfl, compiled⟩
  have closing := cursors.nesting.closing
  refine Follows.bind (follows_readCaptures rereads
    (cursors.withNesting closing) inside given.captures ?_) fun _ _ => ?_
  · intro id mem
    cases rule with
    | none => cases mem
    | some rule =>
      obtain ⟨number, name, kind⟩ := rule
      cases kind with
      | region contentName opening ending last inner =>
        refine sim.known_reference (compiled _ rfl) ?_
        simp only [Rule.references, RuleKind.references, Matching.references, List.mem_append,
          List.reduceOption_mem_iff]
        exact .inl (.inr mem)
      | single | container | lines | capture => cases mem
  · apply Follows.bind (sim.follows_cut closing.top.contentScopes given.stop)
    intro _ _
    rw [cursors.position, closing.top.entered]
    split
    · exact follows_finish inside closing
    · refine follows_next (Cursors.advance ?_ found.stop)
      exact ⟨rfl, cursors.firstLine, closing.top.anchor, closing.pop⟩

theorem follows_pass (cursors : sim.Cursors true first second) (inside : sim.Stop line.length)
    (found : SetMatch Target) :
    Follows sim.library (sim.Related true) (Reading.pass line first found : Reading engine Outcome)
      (Reading.pass line second found) (sim.SameOutcome line) := by
  unfold Reading.pass
  dsimp only
  rw [cursors.position]
  generalize (if second.position < found.stop then found.stop else second.position + 1) = position
  split
  · exact follows_finish inside cursors.nesting
  · exact follows_next ⟨rfl, rfl, cursors.anchor, cursors.nesting⟩

theorem follows_openRegion (rereads : sim.Rereads true reread other)
    (cursors : sim.Cursors true first second) (inside : sim.Stop line.length)
    {found : SetMatch Target} (given : sim.Found true found) (rule : Rule) {frame twin : Frame}
    (frames : sim.Frames true frame twin) {opening : Matching}
    (known : ∀ ref ∈ opening.references, sim.Known true ref) (source : Source) :
    Follows sim.library (sim.Related true)
      (openRegion reread line first found rule frame opening source)
      (openRegion other line second found rule twin opening source) (sim.SameOutcome line) := by
  have pushed := cursors.nesting.push frames
  unfold openRegion
  dsimp only
  refine Follows.bind (follows_readCaptures rereads
    (cursors.withNesting pushed) inside given.captures ?_) fun _ _ => ?_
  · intro id mem
    exact known id (by rwa [Matching.references, List.reduceOption_mem_iff])
  apply Follows.bind (sim.follows_cut frames.nameScopes given.stop)
  intro _ _
  apply Follows.bind
    (sim.follows_enter frames.nameScopes (rule.contentNameFor line found.captures))
  intro _ _
  apply Follows.of_and
  intro contents
  have filled := frames.filled contents (if source.hasReference then
    some (source.resolveReferences line found.captures) else none)
  generalize (if source.hasReference then
    some (source.resolveReferences line found.captures) else none) = pattern at filled ⊢
  rw [cursors.position, cursors.nesting.opened filled.rule filled.entered]
  split
  · exact follows_finish inside cursors.nesting
  · refine follows_next (Cursors.advance ?_ found.stop)
    exact ⟨rfl, cursors.firstLine, rfl, cursors.nesting.push filled⟩

theorem follows_take (rereads : sim.Rereads true reread other)
    (cursors : sim.Cursors true first second) (inside : sim.Stop line.length)
    {found : SetMatch Target} (given : sim.Found true found) {id : RuleId}
    (known : sim.Known true id) :
    Follows sim.library (sim.Related true) (take reread line first found id)
      (take other line second found id) (sim.SameOutcome line) := by
  unfold take
  dsimp only
  apply Follows.bind (sim.follows_rule? known)
  intro rule _
  apply Follows.of_and
  rintro ⟨rfl, compiled⟩
  cases rule with
  | none => exact follows_finish inside cursors.nesting
  | some rule =>
    simp only
    split
    · exact follows_pass cursors inside found
    apply Follows.bind (sim.follows_cut cursors.scopes given.start)
    intro _ _
    apply Follows.bind (sim.follows_enter cursors.scopes (rule.nameFor line found.captures))
    intro _ _
    apply Follows.of_and
    intro names
    have references (ref : RuleId) (mem : ref ∈ rule.references) : sim.Known true ref :=
      sim.known_reference (compiled rule rfl) mem
    have frames := Frames.opening known names (found.stop == line.length)
      (some second.position) second.anchor
    have pushed := cursors.withNesting (cursors.nesting.push frames)
    rw [cursors.position, cursors.anchor]
    rw [cursors.position, cursors.anchor] at pushed
    obtain ⟨number, name, kind⟩ := rule
    cases kind with
    | single matching =>
      refine Follows.bind (follows_readCaptures rereads pushed inside given.captures ?_)
        fun _ _ => ?_
      · intro ref mem
        exact references ref (by
          simpa only [Rule.references, RuleKind.references, Matching.references,
            List.reduceOption_mem_iff])
      apply Follows.bind (sim.follows_cut names given.stop)
      intro _ _
      exact follows_next ⟨rfl, rfl, rfl, cursors.nesting⟩
    | region contentName opening closing last inner =>
      exact follows_openRegion rereads cursors inside given _ frames
        (fun ref mem => references ref (by simp [Rule.references, RuleKind.references, mem])) _
    | lines contentName opening condition inner =>
      exact follows_openRegion rereads cursors inside given _ frames
        (fun ref mem => references ref (by simp [Rule.references, RuleKind.references, mem])) _
    | container | capture =>
      exact Follows.bind (sim.follows_warn _) fun _ _ => follows_finish inside cursors.nesting

theorem follows_step (rereads : sim.Rereads true reread other)
    (cursors : sim.Cursors stage first second) (inside : sim.Stop line.length) :
    Follows sim.library (sim.Related stage) (step reread line first)
      (step other line second) (sim.SameOutcome line) := by
  have late := cursors.late
  unfold step
  apply Follows.bind (follows_nextMatch cursors inside)
  intro a b
  apply Follows.of_and
  rintro ⟨rfl, sound⟩
  cases a with
  | none => exact follows_finish inside late.nesting
  | some found =>
    have given := sound found rfl
    simp only
    cases label : found.label with
    | closing => exact follows_close rereads late inside given
    | rule id => exact follows_take rereads late inside given (given.known id label)
    | condition => exact follows_finish inside late.nesting

end Steps

/-! ## Lines -/

section Lines

variable {sim} {first second : Cursor} {line : Line}

/-- Reading on in more steps gives the same answer. -/
theorem follows_readFrom {fewer more : Nat} (le : fewer ≤ more)
    (cursors : sim.Cursors stage first second) (inside : sim.Stop line.length) :
    Follows sim.library (sim.Related stage) (readFrom fewer line first)
      (readFrom more line second)
      (fun n m p q => sim.Nestings true n m ∧ sim.Related true p q ∧
        line.length ≤ p.tokens.stop) := by
  induction fewer generalizing more stage first second line with
  | zero => exact Follows.failure
  | succ fewer ih =>
    obtain ⟨more, rfl⟩ : ∃ n, more = n + 1 := ⟨more - 1, by omega⟩
    have le : fewer ≤ more := by omega
    have rereads : sim.Rereads true (readFrom fewer : Line → Cursor → Reading engine Nesting)
        (readFrom more) := fun line a b inside cursors =>
      (ih le cursors inside).post fun n m p q after => ⟨after.1, after.2.1⟩
    apply Follows.bind (follows_step rereads cursors inside)
    intro a b p q between
    obtain ⟨outcomes, related, reached⟩ := between
    cases outcomes with
    | next cursors => exact ih le cursors inside p q related
    | done nestings =>
      rintro n p' ⟨⟩
      exact ⟨_, q, rfl, nestings, related, reached _ rfl⟩

theorem rereads_readFrom {fewer more : Nat} (le : fewer ≤ more) :
    sim.Rereads stage (readFrom fewer : Line → Cursor → Reading engine Nesting)
      (readFrom more) :=
  fun _ _ _ inside cursors =>
    (follows_readFrom le cursors inside).post fun _ _ _ _ after => ⟨after.1, after.2.1⟩

theorem follows_checkLevels {reread other : Line → Cursor → Reading engine Nesting}
    (rereads : sim.Rereads stage reread other) (inside : sim.Stop line.length)
    {levels others : List Nesting} (alike : List.Forall₂ (sim.Nestings stage) levels others)
    (cursors : sim.Cursors stage first second) :
    Follows sim.library (sim.Related stage) (checkLevels reread line levels first)
      (checkLevels other line others second)
      (fun a b p q => sim.Cursors stage a b ∧ sim.Related stage p q) := by
  induction alike generalizing first second with
  | nil => exact Follows.pure fun p q related => ⟨cursors, related⟩
  | @cons level twin levels others head _ ih =>
    unfold checkLevels
    rw [← head.top.rule, ← head.top.pattern]
    apply Follows.bind (sim.follows_rule? head.top.known)
    intro rule _
    apply Follows.of_and
    rintro ⟨rfl, compiled⟩
    cases rule with
    | none => exact ih cursors
    | some rule =>
      obtain ⟨number, name, kind⟩ := rule
      cases kind with
      | single | container | region | capture => exact ih cursors
      | lines contentName opening condition inner =>
        rw [cursors.anchors_eq]
        apply Follows.bind (sim.follows_conditionScanner (compiled _ rfl) _ _)
        intro scanner _
        apply Follows.of_and
        rintro rfl
        have atLevel := cursors.withNesting head
        rw [cursors.position] at atLevel ⊢
        cases search : scanner.findAt line second.position with
        | none =>
          exact Follows.pure fun p q related =>
            ⟨⟨rfl, cursors.firstLine, cursors.anchor, head.pop⟩, related⟩
        | some found =>
          obtain ⟨start, stop, spans⟩ := sim.stop_of_found inside search
          simp only
          apply Follows.bind (sim.follows_cut head.top.contentScopes start)
          intro _ _
          refine Follows.bind (follows_readCaptures rereads atLevel inside spans ?_) fun _ _ => ?_
          · intro id mem
            refine sim.known_reference (compiled _ rfl) ?_
            simp only [Rule.references, RuleKind.references, Matching.references, List.mem_append,
              List.reduceOption_mem_iff]
            exact .inl (.inr mem)
          apply Follows.bind (sim.follows_cut head.top.contentScopes stop)
          intro _ _
          refine ih (Cursors.advance ?_ found.stop)
          exact ⟨rfl, cursors.firstLine, rfl, cursors.nesting⟩

theorem follows_checkConditions {reread other : Line → Cursor → Reading engine Nesting}
    (rereads : sim.Rereads stage reread other) (inside : sim.Stop line.length)
    (cursors : sim.Cursors stage first second) :
    Follows sim.library (sim.Related stage) (checkConditions reread line first)
      (checkConditions other line second)
      (fun a b p q => sim.Cursors stage a b ∧ sim.Related stage p q) := by
  unfold checkConditions
  rw [cursors.nesting.top.tookLineEnd]
  exact follows_checkLevels rereads inside cursors.nesting.levels
    ⟨cursors.position, cursors.firstLine, rfl, cursors.nesting⟩

end Lines

end Simulation

end ScopeTokenizer
