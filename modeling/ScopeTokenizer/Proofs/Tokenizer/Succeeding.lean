import ScopeTokenizer.Proofs.Reading.Watching
import ScopeTokenizer.Proofs.Tokenizer.Nestings
import ScopeTokenizer.Proofs.Tokenizer.Targets

/-!
# Reading goes on

Whatever is read, and at whatever moment: the rules of all open regions are there, and so is each
rule that a search finds, with a pattern. So reading never comes to a rule that is missing, nor to
one that it cannot take. One lemma for each operation says that there is an answer from any sound
progress, and what is known of it then.
-/

namespace ScopeTokenizer

open Grammar Pattern Style

variable {engine : Engine} {α β : Type}

/-! ## Nestings of rules that are there -/

/-- The rules of all regions of a nesting are there. -/
def Grammar.RuleTable.Holds (table : RuleTable) (nesting : Nesting) : Prop :=
  ∀ frame ∈ nesting.frames, table.Has frame.rule

namespace Grammar.RuleTable.Holds

variable {table before after : RuleTable} {nesting : Nesting}

theorem mono (holds : before.Holds nesting) (grows : before.Grows after) : after.Holds nesting :=
  fun frame mem => (holds frame mem).mono grows

theorem top (holds : table.Holds nesting) : table.Has nesting.top.rule :=
  holds _ nesting.top_mem_frames

theorem above (holds : table.Holds nesting) {frame : Frame} (has : table.Has frame.rule) :
    table.Holds (.above nesting frame) := by
  intro other mem
  rw [Nesting.frames_above] at mem
  rcases List.mem_append.mp mem with mem | mem
  · exact holds other mem
  · obtain rfl := List.mem_singleton.mp mem
    exact has

theorem push (holds : table.Holds nesting) {frame : Frame} (has : table.Has frame.rule) :
    table.Holds (nesting.push frame) :=
  holds.above has

theorem level (holds : table.Holds nesting) {level : Nesting} (mem : level ∈ nesting.levels) :
    table.Holds level :=
  fun frame inside => holds frame ((Nesting.frames_prefix_of_mem_levels mem).subset inside)

theorem pop (holds : table.Holds nesting) : table.Holds nesting.pop := by
  cases nesting with
  | root frame => exact holds
  | above outer frame =>
    refine fun other mem => holds other ?_
    rw [Nesting.frames_above]
    exact List.mem_append_left _ mem

theorem withContentScopes (holds : table.Holds nesting) (scopes : ScopePath) :
    table.Holds (nesting.withContentScopes scopes) := by
  cases nesting with
  | root frame =>
    intro other mem
    obtain rfl := List.mem_singleton.mp mem
    exact holds.top
  | above outer frame => exact (holds.pop).above holds.top

end Grammar.RuleTable.Holds

theorem Tokenizer.WellFormed.holds {tokenizer : Tokenizer engine} {nesting : Nesting}
    (wellFormed : tokenizer.WellFormed nesting) (coherent : tokenizer.Coherent) :
    tokenizer.compilation.table.Holds nesting := by
  induction wellFormed with
  | root ground =>
    intro frame mem
    obtain rfl := List.mem_singleton.mp mem
    obtain ⟨rule, compiled, -⟩ := coherent.root
    exact ⟨rule, ground.rule ▸ compiled⟩
  | above _ opened ih =>
    obtain ⟨rule, -, compiled, -⟩ := opened.rule
    exact ih.above ⟨rule, compiled⟩

/-! ## Sound progress -/

/-- The rules that reading has come to have. -/
abbrev Progress.table (progress : Progress engine) : RuleTable :=
  progress.tokenizer.compilation.table

/-- Reading has come to some moment, and has not said of any rule that it has no pattern. -/
structure Progress.Sound (progress : Progress engine) : Prop where
  moment : Moment progress.tokenizer
  quiet : Warning.Quiet progress.warnings

namespace Reading

/-- From any sound progress with the rules of a table, the reading gives an answer. The progress is
sound then too, and has kept its rules, and `post` holds of the answer. -/
def Succeeds (library : Library) (table : RuleTable) (reading : Reading engine α)
    (post : α → RuleTable → Prop) : Prop :=
  ∀ p, p.Sound → table.Grows p.table →
    ∃ a q, reading library p = some (a, q) ∧ q.Sound ∧ p.table.Grows q.table ∧ post a q.table

namespace Succeeds

variable {library : Library} {table : RuleTable} {reading : Reading engine α}
  {post : α → RuleTable → Prop}

theorem bind {next : α → Reading engine β} {last : β → RuleTable → Prop}
    (start : Succeeds library table reading post)
    (rest : ∀ a later, table.Grows later → post a later → Succeeds library later (next a) last) :
    Succeeds library table (reading >>= next) last := by
  intro p sound grows
  obtain ⟨a, q, run, sound, grows', given⟩ := start p sound grows
  obtain ⟨b, r, run', sound, grows'', final⟩ :=
    rest a q.table (grows.trans grows') given q sound (.refl _)
  exact ⟨b, r, run_bind_eq_some.mpr ⟨a, q, run, run'⟩, sound, grows'.trans grows'', final⟩

theorem pure {a : α} (given : ∀ later, table.Grows later → post a later) :
    Succeeds library table (Pure.pure a : Reading engine α) post :=
  fun p sound grows => ⟨a, p, rfl, sound, .refl _, given p.table grows⟩

/-- So it does from any progress that has come to more rules. -/
theorem mono (succeeds : Succeeds library table reading post) {later : RuleTable}
    (grows : table.Grows later) : Succeeds library later reading post :=
  fun p sound grows' => succeeds p sound (grows.trans grows')

theorem weaken {wanted : α → RuleTable → Prop} (succeeds : Succeeds library table reading post)
    (enough : ∀ a later, post a later → wanted a later) :
    Succeeds library table reading wanted := by
  intro p sound grows
  obtain ⟨a, q, run, sound, grows', given⟩ := succeeds p sound grows
  exact ⟨a, q, run, sound, grows', enough a q.table given⟩

/-! ## Operations -/

theorem use {ask : Tokenizer engine → α × Tokenizer engine × List Warning}
    (given : ∀ tokenizer, Moment tokenizer → table.Grows tokenizer.compilation.table →
      Moment (ask tokenizer).2.1 ∧
        tokenizer.compilation.table.Grows (ask tokenizer).2.1.compilation.table ∧
        Warning.Quiet (ask tokenizer).2.2 ∧
        post (ask tokenizer).1 (ask tokenizer).2.1.compilation.table) :
    Succeeds library table (Reading.use ask) post := by
  intro p sound grows
  obtain ⟨moment, grows', quiet, known⟩ := given p.tokenizer sound.moment grows
  exact ⟨_, _, rfl, ⟨moment, sound.quiet.append quiet⟩, grows', known⟩

theorem rule? (id : RuleId) :
    Succeeds library table (Reading.rule? id : Reading engine _)
      fun answer later => answer = later.rule? id :=
  fun p sound _ => ⟨_, p, rfl, sound, .refl _, rfl⟩

theorem cut (scopes : ScopePath) (stop : Nat) :
    Succeeds library table (Reading.cut scopes stop : Reading engine _) fun _ _ => True :=
  fun _ sound _ => ⟨(), _, rfl, ⟨sound.moment, sound.quiet⟩, .refl _, trivial⟩

theorem enter (path : ScopePath) (scopes : Option String) :
    Succeeds library table (Reading.enter path scopes : Reading engine _) fun _ _ => True := by
  refine use fun tokenizer moment _ => ⟨moment.enterAll library path scopes, ?_,
    tokenizer.quiet_enterAll path scopes, trivial⟩
  rw [(moment.coherent.enterAll path scopes).2.2.compilation]
  exact .refl _

/-! ## Matches -/

/-- What was found may be looked for. -/
def Sought (answer : Option (SetMatch Target)) (table : RuleTable) : Prop :=
  ∀ found ∈ answer, table.seeks found.label = true

variable (line : Line) {cursor : Cursor}

theorem search {id : RuleId} {rule : Rule} (compiled : table.rule? id = some rule)
    (filled : Option String) :
    Succeeds library table (Reading.search line cursor rule filled : Reading engine _) Sought := by
  unfold Reading.search
  have scans : Succeeds library table
      (Reading.use fun tokenizer : Tokenizer engine =>
        tokenizer.ruleScanner rule filled cursor.anchors) fun scanner later =>
          Tokenizer.Aims later scanner := by
    refine use fun tokenizer moment grows => ?_
    have found : tokenizer.rule? id = some rule :=
      (grows.kept id (RuleTable.le_size_of_rule? compiled)).trans compiled
    have same := (moment.coherent.ruleScanner found filled cursor.anchors).2.2.compilation
    have aims := moment.coherent.aims_ruleScanner found filled cursor.anchors
    rw [← same] at aims
    refine ⟨moment.asked library (.searched filled cursor.anchors found), ?_,
      tokenizer.quiet_scanner _ _ _, aims⟩
    rw [same]
    exact .refl _
  refine scans.bind fun scanner later _ aims => .pure fun last grows found run => ?_
  obtain ⟨member, mem, is⟩ := PatternSet.mem_of_findAt run
  rw [← is]
  exact RuleTable.seeks_mono (aims.members member mem) grows

theorem regularMatch (top : table.Has cursor.nesting.top.rule) :
    Succeeds library table (Reading.regularMatch line cursor : Reading engine _) Sought := by
  unfold Reading.regularMatch
  refine (rule? _).bind fun answer later grows is => ?_
  obtain ⟨rule, compiled⟩ := top.mono grows
  rw [compiled] at is
  subst is
  exact search line compiled _

theorem bestInjected (names : List String) (injections : List Injection) {best : Option Injected}
    (sought : Sought (best.map Prod.snd) table) :
    Succeeds library table
      (Reading.bestInjected line cursor names injections best : Reading engine _)
      fun answer => Sought (answer.map Prod.snd) := by
  have later {table last : RuleTable} {best : Option Injected}
      (sought : Sought (best.map Prod.snd) table) (grows : table.Grows last) :
      Sought (best.map Prod.snd) last :=
    fun found is => RuleTable.seeks_mono (sought found is) grows
  induction injections generalizing table best with
  | nil => exact .pure fun last grows => later sought grows
  | cons injection others ih =>
    unfold Reading.bestInjected
    split
    · refine (rule? _).bind fun answer next grows is => ?_
      have sought := later sought grows
      cases answer with
      | none => exact ih sought
      | some rule =>
        refine (search line is.symm none).bind fun answer next grows given => ?_
        have sought := later sought grows
        cases answer with
        | none => exact ih sought
        | some found =>
          have better : Sought ((some (injection.priority, found)).map Prod.snd) next := given
          dsimp only
          split
          · exact ih sought
          · split
            · exact .pure fun last grows => later better grows
            · exact ih better
    · exact ih sought

theorem nextMatch (top : table.Has cursor.nesting.top.rule) :
    Succeeds library table (Reading.nextMatch line cursor : Reading engine _) Sought := by
  have reads : Succeeds library table (read : Reading engine Library)
      fun given _ => given = library :=
    fun p sound _ => ⟨library, p, rfl, sound, .refl _, rfl⟩
  have collects (table : RuleTable) : Succeeds library table
      (Reading.use fun tokenizer : Tokenizer engine => tokenizer.collected library)
      fun _ _ => True :=
    use fun tokenizer moment _ => ⟨moment.asked library .collected,
      (moment.coherent.collected library).2.1.table,
      Tokenizer.quiet_collected moment.orderly library, trivial⟩
  unfold Reading.nextMatch
  refine (regularMatch line top).bind fun regular after _ sought => ?_
  refine (reads.mono ‹_›).bind fun given middle grows is => ?_
  subst is
  refine (collects middle).bind fun injections later grows' _ => ?_
  have sought : Sought regular later :=
    fun found is => RuleTable.seeks_mono (sought found is) (grows.trans grows')
  split
  · exact .pure fun last grows found is => RuleTable.seeks_mono (sought found is) grows
  · have noneYet : Sought (Option.map Prod.snd (none : Option Injected)) later := by
      rintro _ ⟨⟩
    refine (bestInjected line _ injections noneYet).bind fun best after grows injected => ?_
    refine .pure fun last grows' found is => ?_
    refine of_better (P := fun found => last.seeks found.label = true)
      (fun found is => ?_) (fun found is => ?_) is
    · exact RuleTable.seeks_mono (sought found is) (grows.trans grows')
    · exact RuleTable.seeks_mono (injected found.2 (Option.mem_map_of_mem _ is)) grows'

/-! ## Captures -/

theorem closeUpTo (position : Nat) (opened : List OpenCapture) :
    Succeeds library table (Reading.closeUpTo position opened : Reading engine _)
      fun _ _ => True := by
  induction opened generalizing table with
  | nil => exact .pure fun _ _ => trivial
  | cons first others ih =>
    unfold Reading.closeUpTo
    split
    · exact (cut _ _).bind fun _ _ _ _ => ih
    · exact .pure fun _ _ => trivial

theorem closeAll (opened : List OpenCapture) :
    Succeeds library table (Reading.closeAll opened : Reading engine _) fun _ _ => True := by
  unfold Reading.closeAll
  induction opened generalizing table with
  | nil => exact .pure fun _ _ => trivial
  | cons first others ih =>
    rw [List.forM_eq_forM, List.forM_cons]
    exact (cut _ _).bind fun _ _ _ _ => ih

/-- A loop that reads on from any nesting whose rules are there. -/
def Loops (library : Library) (loop : Line → Cursor → Reading engine Nesting) : Prop :=
  ∀ table line cursor, table.Holds cursor.nesting →
    Succeeds library table (loop line cursor) fun nesting later => later.Holds nesting

section Captures

variable {reread : Line → Cursor → Reading engine Nesting} (loops : Loops library reread)
  (captures : Captures)

include loops

theorem again (holds : table.Holds cursor.nesting) (rule : Rule) {inner : RuleId}
    (has : table.Has inner) (span : Span) :
    Succeeds library table (Reading.again reread line cursor captures rule inner span)
      fun _ _ => True := by
  unfold Reading.again
  refine (enter _ _).bind fun nameScopes middle grows _ => ?_
  refine (enter _ _).bind fun contentScopes later grows' _ => ?_
  have grows := grows.trans grows'
  refine (loops later _ _ ((holds.mono grows).push (has.mono grows))).bind fun _ _ _ _ => ?_
  exact .pure fun _ _ => trivial

/-- The rule by which a capture is read again is there, although that of the capture may be
missing. -/
theorem openCapture (holds : table.Holds cursor.nesting) (opened : List OpenCapture) (id : RuleId)
    (span : Span) :
    Succeeds library table (Reading.openCapture reread line cursor captures opened id span)
      fun _ _ => True := by
  have compiled : Succeeds library table (Reading.rule? id : Reading engine _)
      fun answer later => ∀ rule ∈ answer, later.Rereads rule :=
    fun p sound _ => ⟨_, p, rfl, sound, .refl _, fun rule is => sound.moment.orderly.rereads is⟩
  unfold Reading.openCapture
  refine (closeUpTo _ _).bind fun opened middle grows _ => ?_
  refine (cut _ _).bind fun _ later grows' _ => ?_
  refine (compiled.mono (grows.trans grows')).bind fun answer last grows'' rereads => ?_
  have unchanged : Succeeds library last (Pure.pure opened : Reading engine _) fun _ _ => True :=
    .pure fun _ _ => trivial
  cases answer with
  | none => exact unchanged
  | some rule =>
    obtain ⟨number, name, kind⟩ := rule
    cases kind with
    | single | container | region | lines => exact unchanged
    | capture contentName inner =>
      cases inner with
      | some inner =>
        have has : last.Has inner := rereads _ rfl inner rfl
        exact (again line loops captures (holds.mono (grows.trans (grows'.trans grows''))) _ has
          span).bind fun _ _ _ _ => .pure fun _ _ => trivial
      | none =>
        dsimp only
        split
        · exact (enter _ _).bind fun _ _ _ _ => .pure fun _ _ => trivial
        · exact unchanged

theorem openCaptures (holds : table.Holds cursor.nesting) (stop : Nat)
    (groups : List (Option RuleId × Option Span)) (opened : List OpenCapture) :
    Succeeds library table (Reading.openCaptures reread line cursor captures stop groups opened)
      fun _ _ => True := by
  induction groups generalizing table opened with
  | nil => exact .pure fun _ _ => trivial
  | cons group others ih =>
    obtain ⟨id, span⟩ := group
    cases id with
    | none => simpa only [Reading.openCaptures] using ih holds opened
    | some id =>
      cases span with
      | none => simpa only [Reading.openCaptures] using ih holds opened
      | some span =>
        simp only [Reading.openCaptures]
        split
        · exact ih holds opened
        · split
          · exact .pure fun _ _ => trivial
          · exact (openCapture line loops captures holds opened id span).bind
              fun opened later grows _ => ih (holds.mono grows) opened

theorem readCaptures (holds : table.Holds cursor.nesting) (rules : List (Option RuleId)) :
    Succeeds library table (Reading.readCaptures reread line cursor captures rules)
      fun _ _ => True := by
  unfold Reading.readCaptures
  split
  · exact (openCaptures line loops _ holds _ _ _).bind fun opened _ _ _ => closeAll opened
  · exact .pure fun _ _ => trivial

end Captures

/-! ## Steps -/

section Steps

/-- The rules of the nesting that a step leads to are there. -/
abbrev Leads (outcome : Outcome) (table : RuleTable) : Prop := table.Holds outcome.nesting

theorem finish {nesting : Nesting} (holds : table.Holds nesting) :
    Succeeds library table (Reading.finish line nesting : Reading engine _) Leads := by
  unfold Reading.finish
  exact (cut _ _).bind fun _ later grows _ => .pure fun last grows' =>
    holds.mono (grows.trans grows')

theorem pass (holds : table.Holds cursor.nesting) (found : SetMatch Target) :
    Succeeds library table (Reading.pass line cursor found : Reading engine _) Leads := by
  unfold Reading.pass
  dsimp only
  generalize (if cursor.position < found.stop then found.stop else cursor.position + 1) = position
  split
  · exact finish line holds
  · exact .pure fun last grows => holds.mono grows

variable {reread : Line → Cursor → Reading engine Nesting} (loops : Loops library reread)
  (holds : table.Holds cursor.nesting)

include loops holds

theorem close (found : SetMatch Target) :
    Succeeds library table (Reading.close reread line cursor found) Leads := by
  have closing := holds.withContentScopes cursor.nesting.top.nameScopes
  unfold Reading.close
  dsimp only
  refine (cut _ _).bind fun _ first grows _ => ?_
  refine (rule? _).bind fun rule second grows' _ => ?_
  have closing := closing.mono (grows.trans grows')
  refine (readCaptures line loops _ closing _).bind fun _ third grows _ => ?_
  refine (cut _ _).bind fun _ last grows' _ => ?_
  have closing := closing.mono (grows.trans grows')
  split
  · exact finish line closing
  · refine .pure fun later grows => ?_
    simp only [Leads, Outcome.nesting, Cursor.nesting_advance]
    exact (closing.mono grows).pop

theorem openRegion (found : SetMatch Target) (rule : Rule) {frame : Frame}
    (has : table.Has frame.rule) (opening : Matching) (source : Source) :
    Succeeds library table (Reading.openRegion reread line cursor found rule frame opening source)
      Leads := by
  unfold Reading.openRegion
  dsimp only
  refine (readCaptures line loops _ (holds.push has) _).bind fun _ first grows _ => ?_
  refine (cut _ _).bind fun _ second grows' _ => ?_
  refine (enter _ _).bind fun contentScopes third grows'' _ => ?_
  have grows := grows.trans (grows'.trans grows'')
  generalize (if source.hasReference then
    some (source.resolveReferences line found.captures) else none) = pattern
  split
  · exact finish line (holds.mono grows)
  · refine .pure fun later grows' => ?_
    have grows := grows.trans grows'
    simp only [Leads, Outcome.nesting, Cursor.nesting_advance]
    exact (holds.mono grows).push (has.mono grows)

/-- A rule that was looked for is there, and matches once or opens a region. -/
theorem take (found : SetMatch Target) {id : RuleId} (sought : table.seeks (.rule id) = true) :
    Succeeds library table (Reading.take reread line cursor found id) Leads := by
  obtain ⟨rule, compiled, leading⟩ := RuleTable.seeks_rule_iff.mp sought
  have has : table.Has id := ⟨rule, compiled⟩
  unfold Reading.take
  dsimp only
  refine (rule? id).bind fun answer first grows is => ?_
  rw [grows.kept id (RuleTable.le_size_of_rule? compiled), compiled] at is
  subst is
  dsimp only
  have holds := holds.mono grows
  have has := has.mono grows
  split
  · exact pass line holds found
  refine (cut _ _).bind fun _ second grows _ => ?_
  refine (enter _ _).bind fun scopes third grows' _ => ?_
  have holds := holds.mono (grows.trans grows')
  have has := has.mono (grows.trans grows')
  obtain ⟨number, name, kind⟩ := rule
  cases kind with
  | container | capture => cases leading
  | single matching =>
    refine (readCaptures line loops _ (holds.push has) _).bind fun _ fourth grows _ => ?_
    refine (cut _ _).bind fun _ fifth grows' _ => ?_
    exact .pure fun last grows'' => holds.mono (grows.trans (grows'.trans grows''))
  | region => exact openRegion line loops holds found _ has _ _
  | lines => exact openRegion line loops holds found _ has _ _

theorem step : Succeeds library table (Reading.step reread line cursor) Leads := by
  unfold Reading.step
  refine (nextMatch line holds.top).bind fun answer later grows sought => ?_
  have holds := holds.mono grows
  cases answer with
  | none => exact finish line holds
  | some found =>
    have sought := sought found rfl
    dsimp only
    cases label : found.label with
    | closing => exact close line loops holds found
    | rule id => exact take line loops holds found (label ▸ sought)
    | condition => exact finish line holds

end Steps

end Succeeds

end Reading

end ScopeTokenizer
