import ScopeTokenizer.Proofs.Tokenizer.Ending
import ScopeTokenizer.Proofs.Tokenizer.Moments

/-!
# How far conditions hold

Before a line is read, the conditions of the open regions of lines are looked at, from the outermost
region on, each from where the conditions before it have led. This ends with the first one that does
not hold: its region is left, with all that lies inside it, and none of that is looked at.
-/

namespace ScopeTokenizer

open Grammar Pattern Style

variable {engine : Engine}

/-- An open region of lines, with the nesting in which it is the innermost one. -/
structure Ongoing where
  level : Nesting
  id : RuleId
  condition : Matching

namespace Nesting

/-- The innermost region of a nesting, if it is one of lines. -/
def ongoing? (table : RuleTable) (level : Nesting) : Option Ongoing :=
  match table.rule? level.top.rule with
  | some ⟨id, _, .lines _ _ condition _⟩ => some ⟨level, id, condition⟩
  | _ => none

/-- A nesting is ongoing just if its innermost region is one of lines. -/
theorem ongoing?_eq_some {table : RuleTable} {level : Nesting} {region : Ongoing} :
    level.ongoing? table = some region ↔
      region.level = level ∧ ∃ name contentName opening inner,
        table.rule? level.top.rule =
          some ⟨region.id, name, .lines contentName opening region.condition inner⟩ := by
  unfold ongoing?
  constructor
  · intro is
    split at is
    · next found =>
      cases is
      exact ⟨rfl, _, _, _, _, found⟩
    · cases is
  · rintro ⟨rfl, name, contentName, opening, inner, found⟩
    rw [found]

/-- The open regions of lines, the outermost one first. -/
def ongoing (table : RuleTable) (nesting : Nesting) : List Ongoing :=
  nesting.levels.filterMap (ongoing? table)

end Nesting

/-- The largest of a position and the ends of matches. -/
def reach (position : Nat) (founds : List (SetMatch Target)) : Nat :=
  founds.foldl (fun position found => max position found.stop) position

namespace Cursor

/-- The cursor with the anchor at the start of a line. -/
def anchored (cursor : Cursor) : Cursor :=
  { cursor with anchor := if cursor.nesting.top.tookLineEnd then some 0 else none }

/-- The cursor behind a condition that holds. -/
def past (cursor : Cursor) (found : SetMatch Target) : Cursor :=
  { cursor with anchor := some found.stop }.advance found.stop

/-- The cursor behind several conditions that hold. -/
def pastAll (cursor : Cursor) (founds : List (SetMatch Target)) : Cursor :=
  founds.foldl past cursor

@[simp] theorem position_past (cursor : Cursor) (found : SetMatch Target) :
    (cursor.past found).position = max cursor.position found.stop := by
  unfold past advance
  split
  · next further => exact (Nat.max_eq_right (Nat.le_of_lt further)).symm
  · next back => exact (Nat.max_eq_left (Nat.le_of_not_lt back)).symm

@[simp] theorem nesting_past (cursor : Cursor) (found : SetMatch Target) :
    (cursor.past found).nesting = cursor.nesting :=
  nesting_advance _ _

theorem position_pastAll (cursor : Cursor) (founds : List (SetMatch Target)) :
    (cursor.pastAll founds).position = reach cursor.position founds := by
  induction founds generalizing cursor with
  | nil => rfl
  | cons found founds ih =>
    refine (ih (cursor.past found)).trans ?_
    rw [position_past]
    rfl

theorem nesting_pastAll (cursor : Cursor) (founds : List (SetMatch Target)) :
    (cursor.pastAll founds).nesting = cursor.nesting := by
  induction founds generalizing cursor with
  | nil => rfl
  | cons found founds ih => exact (ih (cursor.past found)).trans (nesting_past cursor found)

end Cursor

/-- The match of a condition, after matches of those before it. -/
def Ongoing.find? (engine : Engine) (line : Line) (start : Cursor)
    (founds : List (SetMatch Target)) (region : Ongoing) : Option (SetMatch Target) :=
  let anchors := (start.pastAll founds).anchors
  let patterns := Tokenizer.conditionPatterns region.condition.pattern region.level.top.pattern anchors
  (Tokenizer.build engine patterns).1.findAt line (reach start.position founds)

/-- Of some regions of lines, the conditions of the first ones hold, and not that of the next one. -/
structure Upheld (engine : Engine) (line : Line) (start : Cursor) (regions : List Ongoing)
    (held : List (Ongoing × SetMatch Target)) (others : List Ongoing) : Prop where
  regions : regions = held.map Prod.fst ++ others
  found : ∀ before region found after, held = before ++ (region, found) :: after →
    region.find? engine line start (before.map Prod.snd) = some found
  failing : ∀ region ∈ others.head?, region.find? engine line start (held.map Prod.snd) = none

namespace Upheld

variable {line : Line} {start : Cursor} {region : Ongoing} {regions others : List Ongoing}
  {held : List (Ongoing × SetMatch Target)}

theorem find?_cons (founds : List (SetMatch Target)) (found : SetMatch Target) :
    region.find? engine line start (found :: founds) =
      region.find? engine line (start.past found) founds := by
  simp only [Ongoing.find?, reach, Cursor.pastAll, List.foldl_cons, Cursor.position_past]

theorem cons {found : SetMatch Target} (here : region.find? engine line start [] = some found)
    (upheld : Upheld engine line (start.past found) regions held others) :
    Upheld engine line start (region :: regions) ((region, found) :: held) others where
  regions := by rw [upheld.regions, List.map_cons, List.cons_append]
  found := by
    rintro (_ | ⟨first, before⟩) other match' after split
    · cases split
      exact here
    · rw [List.cons_append, List.cons.injEq] at split
      obtain ⟨rfl, split⟩ := split
      rw [List.map_cons, find?_cons]
      exact upheld.found before other match' after split
  failing := by
    intro other mem
    rw [List.map_cons, find?_cons]
    exact upheld.failing other mem

theorem of_nil (upheld : Upheld engine line start [] held others) : held = [] ∧ others = [] := by
  have none := List.append_eq_nil_iff.mp upheld.regions.symm
  exact none.imp_left List.map_eq_nil_iff.mp

/-- The first condition holds or it does not, and all others are looked at only if it does. -/
theorem cons_cases (upheld : Upheld engine line start (region :: regions) held others) :
    (region.find? engine line start [] = none ∧ held = [] ∧ others = region :: regions) ∨
      ∃ found rest, region.find? engine line start [] = some found ∧
        held = (region, found) :: rest ∧
        Upheld engine line (start.past found) regions rest others := by
  cases held with
  | nil =>
    have all : region :: regions = others := upheld.regions
    exact .inl ⟨upheld.failing region (all ▸ rfl), rfl, all.symm⟩
  | cons first rest =>
    obtain ⟨other, found⟩ := first
    have split := upheld.regions
    rw [List.map_cons, List.cons_append, List.cons.injEq] at split
    obtain ⟨rfl, split⟩ := split
    refine .inr ⟨found, rest, upheld.found [] _ _ rest rfl, rfl, split, ?_, ?_⟩
    · intro before other match' after is
      rw [← find?_cons]
      exact upheld.found ((region, found) :: before) other match' after (is ▸ rfl)
    · intro other mem
      rw [← find?_cons]
      exact upheld.failing other mem

/-- There is always a first condition that does not hold, unless all of them do. -/
theorem exists_held (engine : Engine) (line : Line) (start : Cursor) (regions : List Ongoing) :
    ∃ held others, Upheld engine line start regions held others := by
  induction regions generalizing start with
  | nil => exact ⟨[], [], rfl, by simp, nofun⟩
  | cons region regions ih =>
    cases here : region.find? engine line start [] with
    | none => exact ⟨[], region :: regions, rfl, by simp, fun _ mem => Option.some.inj mem ▸ here⟩
    | some found =>
      obtain ⟨held, others, upheld⟩ := ih (start.past found)
      exact ⟨_, _, upheld.cons here⟩

end Upheld

namespace Reading

variable (reread : Line → Cursor → Reading engine Nesting) (line : Line)

@[simp] theorem run_rule? (id : RuleId) (library : Library) (p : Progress engine) :
    Reading.rule? id library p = some (p.tokenizer.rule? id, p) := rfl

/-- Asks for what the condition of a region is searched with. -/
def askCondition (cursor : Cursor) (region : Ongoing) : Reading engine (Scanner engine) :=
  use fun tokenizer => tokenizer.conditionScanner region.id region.condition.pattern
    region.level.top.pattern cursor.anchors

/-- Takes the match of a condition: the text before it and its captures. -/
def takeCondition (cursor : Cursor) (region : Ongoing) (found : SetMatch Target) :
    Reading engine Unit := do
  cut region.level.top.contentScopes found.start
  readCaptures reread line { cursor with nesting := region.level } found.captures
    region.condition.captures
  cut region.level.top.contentScopes found.stop

/-- Takes the matches of conditions one after the other. -/
def takeConditions : Cursor → List (Ongoing × SetMatch Target) → Reading engine Unit
  | _, [] => return
  | cursor, (region, found) :: others => do
    let _ ← askCondition cursor region
    takeCondition reread line cursor region found
    takeConditions (cursor.past found) others

/-- Goes on after conditions that hold: the next one that is looked at does not. -/
def settle (cursor : Cursor) : List Ongoing → Reading engine Cursor
  | [] => return cursor
  | failing :: _ => do
    let _ ← askCondition cursor failing
    return { cursor with nesting := failing.level.pop }

end Reading

namespace Tokenizer

open Reading

variable {tokenizer : Tokenizer engine} {library : Library}
  {reread : Line → Cursor → Reading engine Nesting} {line : Line}

/-- Other regions are passed over. -/
theorem checkLevels_of_none {level : Nesting} {levels : List Nesting} {table : RuleTable}
    {p : Progress engine} (same : p.tokenizer.rule? level.top.rule = table.rule? level.top.rule)
    (ongoing : level.ongoing? table = none) (cursor : Cursor) :
    checkLevels reread line (level :: levels) cursor library p =
      checkLevels reread line levels cursor library p := by
  conv_lhs => unfold checkLevels
  rw [run_bind, run_rule?, Option.bind_some, same]
  cases found : table.rule? level.top.rule with
  | none => rfl
  | some rule =>
    obtain ⟨id, name, kind⟩ := rule
    cases kind with
    | single | container | region | capture => rfl
    | lines contentName opening condition inner =>
      have other : level.ongoing? table = some ⟨level, id, condition⟩ :=
        Nesting.ongoing?_eq_some.mpr ⟨rfl, _, _, _, _, found⟩
      cases ongoing.symm.trans other

/-- The condition of a region of lines is searched for, and taken if it is found. -/
theorem checkLevels_of_some {level : Nesting} {levels : List Nesting} {table : RuleTable}
    {p : Progress engine} (same : p.tokenizer.rule? level.top.rule = table.rule? level.top.rule)
    {region : Ongoing} (ongoing : level.ongoing? table = some region) (cursor : Cursor) :
    checkLevels reread line (level :: levels) cursor library p =
      (askCondition cursor region >>= fun scanner =>
        match scanner.findAt line cursor.position with
        | none => return { cursor with nesting := region.level.pop }
        | some found => do
          takeCondition reread line cursor region found
          checkLevels reread line levels (cursor.past found)) library p := by
  obtain ⟨rfl, name, contentName, opening, inner, found⟩ := Nesting.ongoing?_eq_some.mp ongoing
  conv_lhs => unfold checkLevels
  rw [run_bind, run_rule?, Option.bind_some, same, found]
  dsimp only
  simp only [askCondition, takeCondition, bind_assoc]
  rfl

/-- What the condition of a region is searched with depends on the rules alone. -/
theorem exists_askCondition {level : Nesting} {region : Ongoing}
    (ongoing : level.ongoing? tokenizer.compilation.table = some region) (line : Line)
    (cursor : Cursor) {p : Progress engine} (kin : tokenizer.Kin library p.tokenizer) :
    ∃ scanner q, askCondition cursor region library p = some (scanner, q) ∧
      scanner.findAt line cursor.position = region.find? engine line cursor [] ∧
      tokenizer.Kin library q.tokenizer := by
  obtain ⟨rfl, name, contentName, opening, inner, found⟩ := Nesting.ongoing?_eq_some.mp ongoing
  obtain ⟨built, kin'⟩ := kin.conditionScanner found region.level.top.pattern cursor.anchors
  let scanner := p.tokenizer.conditionScanner region.id region.condition.pattern
    region.level.top.pattern cursor.anchors
  have search : scanner.1.findAt line cursor.position = region.find? engine line cursor [] :=
    congrArg (PatternSet.findAt · line cursor.position) built
  exact ⟨scanner.1, p.answered scanner, rfl, search, kin'⟩

theorem Coherent.yields_takeCondition (coherent : tokenizer.Coherent)
    (rereads : ∀ line cursor,
      Yields library (tokenizer.Kin library) (reread line cursor) (fun _ => tokenizer.Kin library))
    (cursor : Cursor) (region : Ongoing) (found : SetMatch Target) :
    Yields library (tokenizer.Kin library) (takeCondition reread line cursor region found)
      (fun _ => tokenizer.Kin library) := by
  unfold takeCondition
  refine .bind (.of_ensures (.cut _ _)) fun _ => ?_
  refine .bind ((coherent.lasting_kin library).yields_readCaptures rereads _ _ _ _) fun _ => ?_
  exact .of_ensures (.cut _ _)

/-- Looking at the conditions is to take those that hold, and to leave the first region whose
condition does not hold. -/
theorem Coherent.checkLevels_eq (coherent : tokenizer.Coherent)
    (rereads : ∀ line cursor,
      Yields library (tokenizer.Kin library) (reread line cursor) (fun _ => tokenizer.Kin library))
    {levels : List Nesting}
    (known : ∀ level ∈ levels, level.top.rule ≤ tokenizer.compilation.table.size)
    {cursor : Cursor} {held : List (Ongoing × SetMatch Target)} {others : List Ongoing}
    (upheld : Upheld engine line cursor
      (levels.filterMap (Nesting.ongoing? tokenizer.compilation.table)) held others)
    {p : Progress engine} (kin : tokenizer.Kin library p.tokenizer) :
    checkLevels reread line levels cursor library p =
      (takeConditions reread line cursor held >>= fun _ =>
        settle (cursor.pastAll (held.map Prod.snd)) others) library p := by
  induction levels generalizing cursor held p with
  | nil =>
    obtain ⟨rfl, rfl⟩ := upheld.of_nil
    rfl
  | cons level levels ih =>
    obtain ⟨here, rest⟩ := List.forall_mem_cons.mp known
    have same := kin.rule?_eq here
    cases ongoing : level.ongoing? tokenizer.compilation.table with
    | none =>
      rw [List.filterMap_cons_none ongoing] at upheld
      rw [checkLevels_of_none same ongoing]
      exact ih rest upheld kin
    | some region =>
      rw [List.filterMap_cons_some ongoing] at upheld
      obtain ⟨scanner, q, asked, search, kin'⟩ := exists_askCondition ongoing line cursor kin
      rw [checkLevels_of_some same ongoing, run_bind, asked, Option.bind_some]
      dsimp only
      rcases upheld.cons_cases with ⟨fails, rfl, rfl⟩ | ⟨found, held, holds, rfl, inside⟩
      · have asks : (askCondition cursor region >>= fun _ =>
            return { cursor with nesting := region.level.pop }) library p =
              some ({ cursor with nesting := region.level.pop }, q) := by
          rw [run_bind, asked]
          rfl
        rw [search, fails]
        exact asks.symm
      · have takes : (takeConditions reread line cursor ((region, found) :: held) >>= fun _ =>
            settle (cursor.pastAll (((region, found) :: held).map Prod.snd)) others) library p =
              (takeCondition reread line cursor region found >>= fun _ =>
                takeConditions reread line (cursor.past found) held >>= fun _ =>
                settle ((cursor.past found).pastAll (held.map Prod.snd)) others) library q := by
          simp only [takeConditions, bind_assoc]
          rw [run_bind, asked]
          rfl
        rw [search, holds, takes]
        exact (coherent.yields_takeCondition rereads cursor region found).bind_congr
          (fun _ _ kin => ih rest inside kin) kin'

/-- The region of the grammar is not one of lines, so there is one around each that is. -/
theorem Coherent.exists_outer (coherent : tokenizer.Coherent) {nesting level : Nesting}
    (knows : tokenizer.Knows nesting) (mem : level ∈ nesting.levels) {region : Ongoing}
    (ongoing : level.ongoing? tokenizer.compilation.table = some region) :
    ∃ outer frame gone, region.level = .above outer frame ∧
      nesting.frames = outer.frames ++ frame :: gone := by
  obtain ⟨rfl, name, contentName, opening, inner, found⟩ := Nesting.ongoing?_eq_some.mp ongoing
  obtain ⟨gone, frames⟩ := Nesting.frames_prefix_of_mem_levels mem
  cases level : region.level with
  | above outer frame =>
    rw [level, Nesting.frames_above, List.append_assoc] at frames
    exact ⟨outer, frame, gone, rfl, frames.symm⟩
  | root frame =>
    obtain ⟨rule, root, _, _, container⟩ := coherent.root
    have bottom := Nesting.bottom_of_mem_levels mem
    rw [level] at bottom
    rw [level, Nesting.top, show frame = nesting.bottom from bottom, knows.root] at found
    rw [Tokenizer.rule?, found, Option.some.injEq] at root
    subst root
    cases container

/-- The conditions cut a nesting exactly at the first one that does not hold. -/
theorem conditions_cut_nesting {known present : List Nesting}
    (session : Session tokenizer known present) {previous : Option Nesting}
    (given : ∀ nesting ∈ previous, nesting ∈ known) (library : Library) (text : String)
    (styled : Bool) (steps : Nat) :
    let nesting := tokenizer.resumed previous
    let start := (tokenizer.lineStart previous).anchored
    let check : Reading engine Cursor :=
      checkConditions (readFrom steps) (terminated text) (tokenizer.lineStart previous)
    let regions := nesting.ongoing tokenizer.compilation.table
    let begins : Progress engine := { tokenizer, tokens := { styled } }
    (∃ held others, Upheld engine (terminated text) start regions held others) ∧
    ∀ held others, Upheld engine (terminated text) start regions held others →
      let behind := start.pastAll (held.map Prod.snd)
      let taking : Reading engine Unit := takeConditions (readFrom steps) (terminated text) start held
      behind.nesting = nesting ∧ behind.position = reach 0 (held.map Prod.snd) ∧
      (others = [] → check library begins = (do taking; return behind) library begins) ∧
      ∀ failing above, others = failing :: above →
        ∃ outer frame gone, failing.level = .above outer frame ∧
          nesting.frames = outer.frames ++ frame :: gone ∧
          check library begins = (do
            taking
            let _ ← askCondition behind failing
            return { behind with nesting := outer }) library begins := by
  intro nesting start check regions begins
  obtain ⟨coherent, knows, -⟩ := session.sound
  have fits : tokenizer.Knows nesting :=
    coherent.fits_resumed trivial trivial fun nesting mem => knows nesting (given nesting mem)
  refine ⟨Upheld.exists_held _ _ _ _, fun held others upheld => ?_⟩
  have lasting := coherent.lasting_kin library
  have rereads (line : Line) (cursor : Cursor) :
      Yields library (tokenizer.Kin library) (readFrom steps line cursor)
        (fun _ => tokenizer.Kin library) :=
    (lasting.yields_readFrom steps line cursor).post fun _ _ held => held.2
  have known (level : Nesting) (mem : level ∈ nesting.levels) :
      level.top.rule ≤ tokenizer.compilation.table.size := by
    have frames := (Nesting.frames_prefix_of_mem_levels mem).subset level.top_mem_frames
    exact fits.known _ frames
  have checks : check library begins =
      (takeConditions (readFrom steps) (terminated text) start held >>= fun _ =>
        settle (start.pastAll (held.map Prod.snd)) others) library begins :=
    coherent.checkLevels_eq rereads known upheld (coherent.descends library)
  intro behind taking
  refine ⟨Cursor.nesting_pastAll _ _, Cursor.position_pastAll _ _, ?_, ?_⟩
  · rintro rfl
    exact checks
  · rintro failing above rfl
    have mem : failing ∈ regions := by
      rw [upheld.regions]
      exact List.mem_append_right _ List.mem_cons_self
    obtain ⟨level, inside, ongoing⟩ := List.mem_filterMap.mp mem
    obtain ⟨outer, frame, gone, is, frames⟩ := coherent.exists_outer fits inside ongoing
    refine ⟨outer, frame, gone, is, frames, checks.trans ?_⟩
    rw [settle, is]
    rfl

/-- A grammar of quotations of lists, in which there may be remarks. -/
def quotedLists : GrammarDef where
  scopeName := "source"
  patterns := [{ includeName := some "#quotation" }]
  repository :=
    [("list",
      { name := some "list"
        beginPattern := some "-"
        whilePattern := some " "
        patterns := [{ includeName := some "#remark" }] }),
      ("quotation",
      { name := some "quotation"
        beginPattern := some ">"
        whilePattern := some ">"
        patterns := [{ includeName := some "#list" }] }),
      ("remark",
      { name := some "remark"
        beginPattern := some ":"
        endPattern := some ";" })]

theorem conditions_cut_nesting_quotedLists :
    ∃ (tokenizer : Tokenizer Engine.literal) (nesting : Nesting) (quotation list : Ongoing)
      (found : SetMatch Target) (outer : Nesting) (frame : Frame) (gone : List Frame)
      (cursor : Cursor) (progress : Progress Engine.literal),
      Session tokenizer [nesting] [nesting] ∧ nesting.depth = 4 ∧
      Upheld .literal (terminated ">x") (tokenizer.lineStart (some nesting)).anchored
        [quotation, list] [(quotation, found)] [list] ∧
      list.level = .above outer frame ∧
      (tokenizer.resumed (some nesting)).frames = outer.frames ++ frame :: gone ∧
      checkConditions (readFrom 9) (terminated ">x") (tokenizer.lineStart (some nesting)) {}
        { tokenizer, tokens := { styled := false } } = some (cursor, progress) ∧
      cursor.nesting = outer ∧ cursor.position = 1 := by
  obtain ⟨tokenizer, ⟨reading, quotation, list, found, cursor, progress⟩, compiled, asked⟩ :=
    exists_ofTexts quotedLists (fun tokenizer => do
      let reading ← tokenizer.readLine {} ">-:" none false
      let start := reading.tokenizer.lineStart (some reading.nesting)
      let begins : Progress _ := { tokenizer := reading.tokenizer, tokens := { styled := false } }
      let answer ← checkConditions (readFrom 9) (terminated ">x") start {} begins
      match start.nesting.ongoing reading.tokenizer.compilation.table with
      | [quotation, list] => do
        let found ← quotation.find? .literal (terminated ">x") start.anchored []
        if reading.nesting.depth = 4 ∧ found.stop = 1 ∧
            list.find? .literal (terminated ">x") start.anchored [found] = none then
          some (reading, quotation, list, found, answer)
        else none
      | [] | [_] | _ :: _ :: _ :: _ => none)
    (by decide +kernel)
  simp only [bind, Option.bind_eq_some_iff] at asked
  obtain ⟨_, run, answer, check, asked⟩ := asked
  split at asked
  · next first second regions =>
    simp only [Option.bind_eq_some_iff, Option.ite_none_right_eq_some] at asked
    obtain ⟨_, holds, ⟨depth, stop, fails⟩, asked⟩ := asked
    cases asked
    have compiles : Session tokenizer [] [] := .compiled compiled
    have session := compiles.presentLine (by simp) (reads_of_readLine run)
    have given : ∀ nesting ∈ some reading.nesting, nesting ∈ [reading.nesting] := by simp
    rw [Upheld.find?_cons] at fails
    have ends : Upheld .literal (terminated ">x")
        ((reading.tokenizer.lineStart (some reading.nesting)).anchored.past found) [list] []
        [list] :=
      ⟨rfl, by simp, by rintro _ ⟨⟩; exact fails⟩
    have upheld := ends.cons holds
    obtain ⟨-, cut⟩ := conditions_cut_nesting session given {} ">x" false 9
    obtain ⟨-, position, -, failing⟩ := cut _ _ (regions.symm ▸ upheld)
    obtain ⟨outer, frame, gone, level, frames, equal⟩ := failing list [] rfl
    obtain ⟨_, _, taken, rest⟩ := run_bind_eq_some.mp (equal.symm.trans check)
    obtain ⟨_, _, asks, returns⟩ := run_bind_eq_some.mp rest
    cases returns
    refine ⟨_, _, quotation, list, found, outer, frame, gone, _, _, session, depth, upheld, level,
      frames, check, rfl, position.trans ?_⟩
    simp [reach, stop]
  all_goals cases asked

end Tokenizer

end ScopeTokenizer
