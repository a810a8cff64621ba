import ScopeTokenizer.Proofs.Grammar.Growth
import ScopeTokenizer.Proofs.Pattern.Literal
import ScopeTokenizer.Proofs.Tokenizer.Restraint
import ScopeTokenizer.Proofs.Tokenizer.Session

/-!
# Reading comes to an end

A step may open a region, or close one, without going further on the line, so that its position
alone does not show that reading ends. At one position, regions that were opened elsewhere may be
closed first. After that regions are only opened, each by another rule: closing one that was
opened there, or opening one by a rule that has opened one there, ends the line.

A potential counts what is left: the positions ahead, the open regions, and the rules that have
not opened a region at this position. Every step that does not end the line lowers it.
-/

namespace ScopeTokenizer

open Grammar Pattern Style

variable {engine : Engine}

namespace Nesting

/-- The rules of the innermost regions, as far as they were opened at a position. -/
def openedAt (position : Nat) : Nesting → List RuleId
  | root frame => if frame.entered = some position then [frame.rule] else []
  | above outer frame =>
    if frame.entered = some position then frame.rule :: outer.openedAt position else []

variable {position : Nat}

@[simp] theorem openedAt_above (outer : Nesting) {frame : Frame}
    (here : frame.entered = some position) :
    (above outer frame).openedAt position = frame.rule :: outer.openedAt position := by
  rw [openedAt, if_pos here]

@[simp] theorem openedAt_above_of_ne (outer : Nesting) {frame : Frame}
    (elsewhere : frame.entered ≠ some position) : (above outer frame).openedAt position = [] := by
  rw [openedAt, if_neg elsewhere]

theorem openedAt_push (outer : Nesting) {frame : Frame} (here : frame.entered = some position) :
    (outer.push frame).openedAt position = frame.rule :: outer.openedAt position :=
  openedAt_above outer here

theorem height_push (outer : Nesting) (frame : Frame) :
    (outer.push frame).height = outer.height + 1 := rfl

/-- A region was opened already if its rule has opened one at the same position. -/
theorem opened_iff {frame : Frame} (here : frame.entered = some position) (nesting : Nesting) :
    nesting.opened frame = true ↔ frame.rule ∈ nesting.openedAt position := by
  induction nesting with
  | root other =>
    by_cases entered : other.entered = some position
    · simp only [opened, openedAt, here, entered, BEq.rfl, Bool.true_and, beq_iff_eq, if_true,
        List.mem_singleton]
      exact eq_comm
    · simp [opened, openedAt, here, entered]
  | above outer other ih =>
    by_cases entered : other.entered = some position
    · simp only [opened, here, entered, BEq.rfl, Bool.true_and, Bool.or_eq_true, beq_iff_eq, ih,
        openedAt_above, List.mem_cons]
      exact or_congr_left eq_comm
    · simp [opened, here, entered]

theorem height_pop_le (nesting : Nesting) : nesting.pop.height ≤ nesting.height := by
  cases nesting with
  | root frame => exact Nat.le_refl _
  | above outer frame => exact Nat.le_succ _

@[simp] theorem bottom_pop (nesting : Nesting) : nesting.pop.bottom = nesting.bottom := by
  cases nesting with
  | root frame => rfl
  | above outer frame => rfl

end Nesting

namespace Cursor

variable {bound : Nat} {line : Line} {before after : Cursor}

/-- How many steps there can be from a cursor on, if rules have numbers up to a bound. -/
def potential (bound : Nat) (line : Line) (cursor : Cursor) : Nat :=
  (line.length - cursor.position) * (2 * (bound + 2)) + cursor.nesting.height +
    2 * unmet bound (cursor.nesting.openedAt cursor.position)

/-- Going further makes up for opening a region, and for all rules that may open regions at
the new position. -/
theorem potential_lt_of_further (further : before.position < after.position)
    (inside : after.position ≤ line.length)
    (height : after.nesting.height ≤ before.nesting.height + 1) :
    after.potential bound line < before.potential bound line := by
  have fewer : line.length - after.position + 1 ≤ line.length - before.position := by omega
  have ahead := Nat.mul_le_mul_right (2 * (bound + 2)) fewer
  rw [Nat.succ_mul] at ahead
  have rules := unmet_le bound (after.nesting.openedAt after.position)
  unfold potential
  omega

/-- Closing a region that was opened elsewhere. -/
theorem potential_lt_of_pop {outer : Nesting} {frame : Frame}
    (nesting : before.nesting = .above outer frame)
    (elsewhere : frame.entered ≠ some before.position)
    (stays : after.position = before.position) (popped : after.nesting = outer) :
    after.potential bound line < before.potential bound line := by
  have rules : unmet bound (outer.openedAt before.position) ≤ unmet bound [] :=
    unmet_le_of_subset (List.nil_subset _)
  unfold potential
  rw [nesting, stays, popped, Nesting.openedAt_above_of_ne outer elsewhere, Nesting.height]
  omega

/-- Opening a region by a rule that has not opened one here. -/
theorem potential_lt_of_push {frame : Frame} (here : frame.entered = some before.position)
    (le : frame.rule ≤ bound) (fresh : ¬ before.nesting.opened frame = true)
    (stays : after.position = before.position)
    (pushed : after.nesting = before.nesting.push frame) :
    after.potential bound line < before.potential bound line := by
  rw [Nesting.opened_iff here] at fresh
  have rules := unmet_cons_lt le fresh
  unfold potential
  rw [stays, pushed, Nesting.openedAt_push _ here, Nesting.height_push]
  omega

end Cursor

namespace Tokenizer

open Reading

variable {origin : Tokenizer engine} {library : Library} {line : Line} {cursor : Cursor}
  {reread : Line → Cursor → Reading engine Nesting}

/-- A cursor on a line, in a nesting of a grammar. -/
structure Placed (tokenizer : Tokenizer engine) (line : Line) (cursor : Cursor) : Prop where
  inside : cursor.position ≤ line.length
  root : cursor.nesting.bottom.rule = tokenizer.root

/-- What a step leads to: to the end of the line, or to a cursor that is not before this one and
has less potential. -/
def Leads (tokenizer : Tokenizer engine) (library : Library) (line : Line) (cursor : Cursor) :
    Outcome → Prop
  | .next next => tokenizer.Placed line next ∧ cursor.position ≤ next.position ∧
      next.potential (tokenizer.rules library).size line <
        cursor.potential (tokenizer.rules library).size line
  | .done _ => True

/-- A step leads on, with a tokenizer that remains kin. -/
abbrev LeadsOn (origin : Tokenizer engine) (library : Library) (line : Line) (cursor : Cursor)
    (outcome : Outcome) (tokenizer : Tokenizer engine) : Prop :=
  origin.Leads library line cursor outcome ∧ origin.Kin library tokenizer

/-! ## Steps -/

theorem ensures_finish (nesting : Nesting) :
    Ensures library (origin.Kin library) (finish line nesting : Reading engine Outcome)
      (origin.LeadsOn library line cursor) := by
  unfold finish
  exact Ensures.bind (Ensures.cut _ _) fun _ => Ensures.pure fun _ kin => ⟨trivial, kin⟩

theorem ensures_next {next : Cursor} (leads : origin.Leads library line cursor (.next next)) :
    Ensures library (origin.Kin library) (pure (.next next) : Reading engine Outcome)
      (origin.LeadsOn library line cursor) :=
  Ensures.pure fun _ kin => ⟨leads, kin⟩

/-- Going on to the end of a match leads further, or else it must lower the potential here. -/
theorem leads_advance {next : Cursor} {stop : Nat} (placed : origin.Placed line cursor)
    (stays : next.position = cursor.position) (root : next.nesting.bottom.rule = origin.root)
    (inside : stop ≤ line.length) (height : next.nesting.height ≤ cursor.nesting.height + 1)
    (lower : stop ≤ cursor.position → next.potential (origin.rules library).size line <
      cursor.potential (origin.rules library).size line) :
    origin.Leads library line cursor (.next (next.advance stop)) := by
  unfold Cursor.advance
  split
  · next further =>
    rw [stays] at further
    refine ⟨⟨inside, root⟩, Nat.le_of_lt further, ?_⟩
    exact Cursor.potential_lt_of_further further inside height
  · next here =>
    rw [stays] at here
    refine ⟨⟨?_, root⟩, ?_, lower (Nat.le_of_not_lt here)⟩
    · rw [stays]
      exact placed.inside
    · exact Nat.le_of_eq stays.symm

/-- The rule of the grammar itself is no region, so that its region is never closed. -/
theorem Placed.exists_above (placed : origin.Placed line cursor) (coherent : origin.Coherent)
    {rule : Rule}
    (compiled : (origin.rules library).rule? cursor.nesting.top.rule = some rule)
    (region : rule.kind.isRegion = true) :
    ∃ outer frame, cursor.nesting = .above outer frame := by
  have root := placed.root
  cases nesting : cursor.nesting with
  | above outer frame => exact ⟨outer, frame, rfl⟩
  | root frame =>
    rw [nesting] at root compiled
    obtain ⟨other, found, contentName, inner, kind⟩ := coherent.root_container library
    have same : (origin.rules library).rule? origin.root = some rule := by
      rw [← root]
      exact compiled
    rw [same, Option.some.injEq] at found
    rw [found, kind] at region
    cases region

theorem ensures_close (coherent : origin.Coherent) (restrained : origin.Restrained library)
    (placed : origin.Placed line cursor) {found : SetMatch Target}
    (given : FoundIn (origin.rules library) cursor.nesting.top.rule line cursor.position found)
    (label : found.label = .closing) :
    Ensures library (origin.Kin library) (close reread line cursor found)
      (origin.LeadsOn library line cursor) := by
  obtain ⟨rule, compiled, region⟩ := given.closing label
  obtain ⟨outer, frame, nesting⟩ := placed.exists_above coherent compiled region
  have root := placed.root
  have inside := given.inside
  unfold close
  dsimp only
  apply Ensures.bind (Ensures.cut _ _)
  intro _
  apply Ensures.bind (ensures_rule? _)
  intro rule
  apply Ensures.of_and
  intro _
  apply Ensures.bind (ensures_readCaptures restrained _)
  intro _
  apply Ensures.bind (Ensures.cut _ _)
  intro _
  rw [nesting] at root ⊢
  split
  · exact ensures_finish _
  · next goes =>
    have shallower : outer.height ≤ cursor.nesting.height + 1 := by
      rw [nesting]
      exact Nat.le_add_right_of_le (Nat.le_succ _)
    apply ensures_next
    refine leads_advance placed rfl root inside shallower ?_
    intro stays
    -- A region that was opened here would have ended the line.
    have elsewhere : frame.entered ≠ some cursor.position := fun here => goes ⟨stays, here⟩
    exact Cursor.potential_lt_of_pop nesting elsewhere rfl rfl

theorem ensures_pass (placed : origin.Placed line cursor) (found : SetMatch Target) :
    Ensures library (origin.Kin library) (Reading.pass line cursor found : Reading engine Outcome)
      (origin.LeadsOn library line cursor) := by
  have further : cursor.position <
      if cursor.position < found.stop then found.stop else cursor.position + 1 := by
    split
    · assumption
    · exact Nat.lt_succ_self _
  unfold Reading.pass
  dsimp only
  generalize (if cursor.position < found.stop then found.stop else cursor.position + 1) = position
    at further ⊢
  split
  · exact ensures_finish _
  · next below =>
    have inside := Nat.le_of_not_le below
    refine ensures_next ⟨⟨inside, placed.root⟩, Nat.le_of_lt further, ?_⟩
    exact Cursor.potential_lt_of_further further inside (Nat.le_succ _)

theorem ensures_openRegion (restrained : origin.Restrained library)
    (placed : origin.Placed line cursor) {found : SetMatch Target}
    (inside : found.stop ≤ line.length) (rule : Rule) {frame : Frame} (opening : Matching)
    (source : Source) (here : frame.entered = some cursor.position)
    (le : frame.rule ≤ (origin.rules library).size) :
    Ensures library (origin.Kin library)
      (openRegion reread line cursor found rule frame opening source)
      (origin.LeadsOn library line cursor) := by
  unfold openRegion
  dsimp only
  apply Ensures.bind (ensures_readCaptures restrained _)
  intro _
  apply Ensures.bind (Ensures.cut _ _)
  intro _
  apply Ensures.bind (ensures_enter _ _)
  intro _
  generalize (if source.hasReference then
    some (source.resolveReferences line found.captures) else none) = pattern
  split
  · exact ensures_finish _
  · next goes =>
    apply ensures_next
    refine leads_advance placed rfl placed.root inside (Nat.le_refl (_ + 1)) ?_
    intro stays
    -- A rule that has opened a region here would have ended the line.
    have fresh := fun opened => goes ⟨stays, opened⟩
    refine Cursor.potential_lt_of_push ?_ ?_ fresh rfl rfl
    · exact here
    · exact le

theorem ensures_take (restrained : origin.Restrained library)
    (placed : origin.Placed line cursor) {found : SetMatch Target}
    (given : FoundIn (origin.rules library) cursor.nesting.top.rule line cursor.position found)
    (id : RuleId) :
    Ensures library (origin.Kin library) (take reread line cursor found id)
      (origin.LeadsOn library line cursor) := by
  unfold take
  dsimp only
  apply Ensures.bind (ensures_rule? id)
  intro rule
  apply Ensures.of_and
  intro compiled
  cases rule with
  | none => exact ensures_finish _
  | some rule =>
    have le := RuleTable.le_size_of_rule? (compiled rule rfl)
    dsimp only
    split
    · exact ensures_pass placed found
    next whole =>
    apply Ensures.bind (Ensures.cut _ _)
    intro _
    apply Ensures.bind (ensures_enter _ _)
    intro _
    obtain ⟨number, name, kind⟩ := rule
    cases kind with
    | single matching =>
      have longer : cursor.position < found.stop := by
        have ahead := given.ahead
        have start_le := given.start_le
        have proper : found.start ≠ found.stop := fun empty => whole ⟨empty, rfl⟩
        omega
      apply Ensures.bind (ensures_readCaptures restrained _)
      intro _
      apply Ensures.bind (Ensures.cut _ _)
      intro _
      refine ensures_next ⟨⟨given.inside, placed.root⟩, Nat.le_of_lt longer, ?_⟩
      exact Cursor.potential_lt_of_further longer given.inside (Nat.le_succ _)
    | region contentName opening closing last inner =>
      exact ensures_openRegion restrained placed given.inside _ opening _ rfl le
    | lines contentName opening condition inner =>
      exact ensures_openRegion restrained placed given.inside _ opening _ rfl le
    | container | capture =>
      exact Ensures.bind (Ensures.warn _) fun _ => ensures_finish _

theorem ensures_step (coherent : origin.Coherent) (restrained : origin.Restrained library)
    (forward : engine.Forward) (placed : origin.Placed line cursor) :
    Ensures library (origin.Kin library) (step reread line cursor)
      (origin.LeadsOn library line cursor) := by
  unfold step
  apply Ensures.bind (ensures_nextMatch coherent restrained forward placed.inside)
  intro found
  apply Ensures.of_and
  intro sound
  cases found with
  | none => exact ensures_finish _
  | some found =>
    have given := sound found rfl
    dsimp only
    cases label : found.label with
    | closing => exact ensures_close coherent restrained placed given label
    | rule id => exact ensures_take restrained placed given id
    | condition => exact ensures_finish _

/-! ## Conditions -/

theorem ensures_conditionScanner {id number : RuleId} {name contentName : Option Scope.Template}
    {opening condition : Matching} {inner : Inner} (filled : Option String) (anchors : Anchors) :
    Ensures library
      (fun tokenizer => some ⟨number, name, .lines contentName opening condition inner⟩ =
        tokenizer.rule? id ∧ origin.Kin library tokenizer)
      (use fun tokenizer =>
        tokenizer.conditionScanner number condition.pattern filled anchors)
      (fun _ => origin.Kin library) := by
  apply Ensures.use
  rintro tokenizer ⟨found, kin⟩
  obtain ⟨-, coherent, same⟩ := kin.coherent.conditionScanner found.symm filled anchors
  exact kin.sameRules coherent same

/-- Looking at the conditions leaves regions, and opens none. -/
theorem ensures_checkLevels (restrained : origin.Restrained library) (forward : engine.Forward)
    {height : Nat} {levels : List Nesting}
    (known : ∀ level ∈ levels, level.bottom.rule = origin.root ∧ level.height ≤ height)
    (placed : origin.Placed line cursor) (shallow : cursor.nesting.height ≤ height) :
    Ensures library (origin.Kin library) (checkLevels reread line levels cursor)
      (fun start tokenizer => (origin.Placed line start ∧ start.nesting.height ≤ height) ∧
        origin.Kin library tokenizer) := by
  induction levels generalizing cursor with
  | nil => exact Ensures.pure fun tokenizer kin => ⟨⟨placed, shallow⟩, kin⟩
  | cons level levels ih =>
    have others := fun other mem => known other (List.mem_cons_of_mem _ mem)
    have skip := ih others placed shallow
    unfold checkLevels
    apply Ensures.bind (Ensures.rule? _)
    intro rule
    cases rule with
    | none => exact Ensures.of_right skip
    | some rule =>
      obtain ⟨number, name, kind⟩ := rule
      cases kind with
      | single | container | region | capture => exact Ensures.of_right skip
      | lines contentName opening condition inner =>
        apply Ensures.bind (ensures_conditionScanner _ _)
        intro scanner
        cases search : scanner.findAt line cursor.position with
        | none =>
          obtain ⟨root, below⟩ := known level List.mem_cons_self
          refine Ensures.pure fun tokenizer kin => ⟨⟨⟨placed.inside, ?_⟩, ?_⟩, kin⟩
          · rw [Nesting.bottom_pop]
            exact root
          · exact Nat.le_trans level.height_pop_le below
        | some found =>
          obtain ⟨-, -, inside⟩ := PatternSet.findAt_forward forward placed.inside search
          dsimp only
          apply Ensures.bind (Ensures.cut _ _)
          intro _
          apply Ensures.bind (ensures_readCaptures restrained _)
          intro _
          apply Ensures.bind (Ensures.cut _ _)
          intro _
          unfold Cursor.advance
          split
          · exact ih others ⟨inside, placed.root⟩ shallow
          · exact ih others ⟨placed.inside, placed.root⟩ shallow

/-! ## Lines -/

/-- The loop ends within as many steps as there is potential. -/
theorem ensures_readFrom (coherent : origin.Coherent) (restrained : origin.Restrained library)
    (forward : engine.Forward) {steps : Nat} (placed : origin.Placed line cursor)
    (enough : cursor.potential (origin.rules library).size line < steps) :
    Ensures library (origin.Kin library) (readFrom steps line cursor)
      (fun _ => origin.Kin library) := by
  induction steps generalizing cursor with
  | zero => exact absurd enough (Nat.not_lt_zero _)
  | succ steps ih =>
    apply Ensures.bind (ensures_step coherent restrained forward placed)
    intro outcome
    apply Ensures.of_and
    intro leads
    cases outcome with
    | done nesting => exact Ensures.pure fun _ kin => kin
    | next next =>
      obtain ⟨placed, -, lower⟩ := leads
      exact ih placed (Nat.lt_of_lt_of_le lower (Nat.le_of_lt_succ enough))

end Tokenizer

/-- The cursors that steps of the loop lead to one after the other, the one that it begins at
first. -/
inductive Reading.Walk (reread : Line → Cursor → Reading engine Nesting) (line : Line)
    (library : Library) : Cursor → Progress engine → List Cursor → Prop where
  | begin (cursor : Cursor) (progress : Progress engine) :
      Walk reread line library cursor progress [cursor]
  | step {cursor next : Cursor} {progress later : Progress engine} {cursors : List Cursor} :
      Reading.step reread line cursor library progress = some (.next next, later) →
      Walk reread line library next later cursors →
      Walk reread line library cursor progress (cursor :: cursors)

namespace Tokenizer

open Reading

variable {origin tokenizer : Tokenizer engine} {library : Library} {line : Line} {cursor : Cursor}
  {reread : Line → Cursor → Reading engine Nesting}

/-- A walk never goes back, and is no longer than the potential that it begins with. -/
theorem Placed.walk (placed : origin.Placed line cursor) (coherent : origin.Coherent)
    (restrained : origin.Restrained library) (forward : engine.Forward)
    {progress : Progress engine} {cursors : List Cursor}
    (walk : Walk reread line library cursor progress cursors)
    (kin : origin.Kin library progress.tokenizer) :
    cursors.Pairwise (fun first second => first.position ≤ second.position) ∧
      (∀ other ∈ cursors, cursor.position ≤ other.position ∧ other.position ≤ line.length) ∧
      cursors.length ≤ cursor.potential (origin.rules library).size line + 1 := by
  induction walk with
  | begin cursor progress =>
    refine ⟨List.pairwise_singleton _ _, fun other mem => ?_, Nat.le_add_left _ _⟩
    obtain rfl := List.mem_singleton.mp mem
    exact ⟨Nat.le_refl _, placed.inside⟩
  | @step cursor next progress later cursors run _ ih =>
    obtain ⟨⟨placed', onward, lower⟩, kin'⟩ :=
      (ensures_step coherent restrained forward placed).of_run kin run
    obtain ⟨sorted, inside, length⟩ := ih placed' kin'
    have above : ∀ other ∈ cursors, cursor.position ≤ other.position := fun other mem =>
      Nat.le_trans onward (inside other mem).1
    refine ⟨List.pairwise_cons.mpr ⟨above, sorted⟩, ?_, ?_⟩
    · refine List.forall_mem_cons.mpr ⟨⟨Nat.le_refl _, placed.inside⟩, fun other mem => ?_⟩
      exact ⟨above other mem, (inside other mem).2⟩
    · rw [List.length_cons]
      omega

/-- The cursor at the start of a line. -/
def lineStart (tokenizer : Tokenizer engine) (previous : Option Nesting) : Cursor :=
  { position := 0, firstLine := previous.isNone, nesting := tokenizer.resumed previous }

/-- The cursors that the loop over a line comes by, in any number of its steps. -/
def Walks (tokenizer : Tokenizer engine) (reread : Line → Cursor → Reading engine Nesting)
    (library : Library) (text : String) (previous : Option Nesting) (styled : Bool)
    (cursors : List Cursor) : Prop :=
  ∃ start progress,
    checkConditions reread (terminated text) (tokenizer.lineStart previous) library
        { tokenizer, tokens := { styled } } = some (start, progress) ∧
      Walk reread (terminated text) library start progress cursors

/-- The limit of steps is above the potential of any cursor that a line can begin at. -/
theorem potential_lt_stepLimit (tokenizer : Tokenizer engine) (library : Library) (line : Line)
    {nesting : Nesting} (shallow : cursor.nesting.height ≤ nesting.height) :
    cursor.potential (tokenizer.rules library).size line <
      tokenizer.stepLimit library line nesting := by
  have rules := unmet_le (tokenizer.rules library).size
    (cursor.nesting.openedAt cursor.position)
  have ahead := Nat.mul_le_mul_right (2 * ((tokenizer.rules library).size + 2))
    (Nat.sub_le line.length cursor.position)
  have perLine : cursor.potential (tokenizer.rules library).size line <
      (line.length + 1) * (2 * ((tokenizer.rules library).size + 2) + 1) + nesting.height := by
    rw [Nat.succ_mul, Nat.mul_succ]
    unfold Cursor.potential
    omega
  calc
    _ < _ := perLine
    _ ≤ _ := Nat.le_mul_of_pos_right _ (Nat.succ_pos _)
    _ ≤ _ := Nat.le_mul_of_pos_right _ (Nat.succ_pos _)

theorem ensures_checkConditions (restrained : origin.Restrained library)
    (forward : engine.Forward) {previous : Option Nesting}
    (root : (origin.resumed previous).bottom.rule = origin.root) :
    Ensures library (origin.Kin library)
      (checkConditions reread line (origin.lineStart previous))
      (fun start tokenizer => (origin.Placed line start ∧
        start.nesting.height ≤ (origin.resumed previous).height) ∧
          origin.Kin library tokenizer) := by
  refine ensures_checkLevels restrained forward (fun level mem => ?_)
    ⟨Nat.zero_le _, root⟩ (Nat.le_refl _)
  have bottom := Nesting.bottom_of_mem_levels mem
  have height := Nesting.height_le_of_mem_levels mem
  exact ⟨by rw [bottom]; exact root, height⟩

/-- Reading any line comes to an end, from any nesting that the grammar has given. On the way the
position never decreases, and there are no more steps than the limit. -/
theorem line_ends {known present : List Nesting} (session : Session tokenizer known present)
    (restrained : tokenizer.Restrained library) (forward : engine.Forward) (text : String)
    {previous : Option Nesting} (given : ∀ nesting ∈ previous, nesting ∈ known) (styled : Bool) :
    (∃ reading, tokenizer.readLine library text previous styled = some reading) ∧
      ∀ reread cursors, tokenizer.Walks reread library text previous styled cursors →
        cursors.Pairwise (fun first second => first.position ≤ second.position) ∧
        (∀ cursor ∈ cursors, cursor.position ≤ (terminated text).length) ∧
        cursors.length ≤
          tokenizer.stepLimit library (terminated text) (tokenizer.resumed previous) := by
  obtain ⟨coherent, knows, -⟩ := session.sound
  have root : (tokenizer.resumed previous).bottom.rule = tokenizer.root := by
    cases previous with
    | none => rfl
    | some nesting => exact (knows nesting (given nesting rfl)).reset.root
  have kin : tokenizer.Kin library tokenizer := coherent.descends library
  have begins (reread : Line → Cursor → Reading engine Nesting) :
      Ensures library (tokenizer.Kin library)
        (checkConditions reread (terminated text) (tokenizer.lineStart previous)) _ :=
    ensures_checkConditions restrained forward root
  constructor
  · obtain ⟨nesting, progress, run, -⟩ :=
      (begins _).bind
        (fun start => Ensures.of_and fun ⟨placed, shallow⟩ =>
          ensures_readFrom coherent restrained forward placed
            (tokenizer.potential_lt_stepLimit library _ shallow))
        { tokenizer, tokens := { styled } } kin
    exact ⟨_, Option.map_eq_some_iff.mpr ⟨_, run, rfl⟩⟩
  · rintro reread cursors ⟨start, progress, run, walk⟩
    obtain ⟨⟨placed, shallow⟩, kin'⟩ := (begins reread).of_run kin run
    obtain ⟨sorted, inside, length⟩ := placed.walk coherent restrained forward walk kin'
    refine ⟨sorted, fun cursor mem => (inside cursor mem).2, Nat.le_trans length ?_⟩
    exact tokenizer.potential_lt_stepLimit library _ shallow

/-- A grammar of regions that take no text, each of which opens the other one at once. -/
def emptyRegions : GrammarDef where
  scopeName := "source"
  patterns := [{ includeName := some "#closed" }]
  repository :=
    [("closed",
      { beginPattern := some ""
        endPattern := some ""
        endPatternLast := true
        patterns := [{ includeName := some "#lines" }] }),
      ("lines",
      { beginPattern := some ""
        whilePattern := some ""
        patterns := [{ includeName := some "#closed" }, { matchPattern := some "" }] })]

theorem line_ends_emptyRegions :
    ∃ (tokenizer : Tokenizer Engine.literal) (first : Nesting),
      Session tokenizer [first] [first] ∧ tokenizer.Restrained {} ∧ first.depth = 3 ∧
      (∃ reading, tokenizer.readLine {} "ab" (some first) false = some reading) ∧
      ∀ reread cursors, tokenizer.Walks reread {} "ab" (some first) false cursors →
        cursors.Pairwise (fun first second => first.position ≤ second.position) ∧
        (∀ cursor ∈ cursors, cursor.position ≤ (terminated "ab").length) ∧
        cursors.length ≤
          tokenizer.stepLimit {} (terminated "ab") (tokenizer.resumed (some first)) := by
  obtain ⟨tokenizer, reading, compiled, asked⟩ := exists_ofTexts emptyRegions (fun tokenizer => do
    let reading ← tokenizer.readLine {} "ab" none false
    if reading.nesting.depth = 3 ∧ reading.tokenizer.Restrained {} then some reading else none)
    (by decide +kernel)
  simp only [bind, Option.bind_eq_some_iff, Option.ite_none_right_eq_some] at asked
  obtain ⟨_, run, ⟨depth, restrained⟩, asked⟩ := asked
  cases asked
  have started : Session tokenizer [] [] := .compiled compiled
  have once := started.presentLine (by simp) (reads_of_readLine run)
  exact ⟨_, reading.nesting, once, restrained, depth,
    line_ends once restrained Engine.literal_forward "ab" (by simp) false⟩

end Tokenizer

end ScopeTokenizer
