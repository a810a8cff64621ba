import ScopeTokenizer.Proofs.Reading.Yielding
import ScopeTokenizer.Proofs.Tokenizer.Kinship

/-!
# Readings without a library

While a line is read, the library is needed for one purpose only: the injections are collected from
it. Once a tokenizer has them, it reads lines alike with any library.
-/

namespace ScopeTokenizer

open Grammar Pattern Style

variable {engine : Engine} {α β : Type}

namespace Reading

/-- With a tokenizer that has its injections, the reading gives the same with any two libraries,
and the tokenizer still has injections then. -/
def Settled (reading : Reading engine α) : Prop :=
  ∀ (library other : Library) (p : Progress engine), p.tokenizer.injections.isSome →
    reading library p = reading other p ∧
      ∀ a q, reading library p = some (a, q) → q.tokenizer.injections.isSome

namespace Settled

theorem pure (a : α) : Settled (Pure.pure a : Reading engine α) := by
  refine fun library other p kept => ⟨rfl, ?_⟩
  rintro _ _ ⟨⟩
  exact kept

theorem failure : Settled (failure : Reading engine α) :=
  fun _ _ _ _ => ⟨rfl, nofun⟩

theorem bind {reading : Reading engine α} {next : α → Reading engine β} (first : Settled reading)
    (rest : ∀ a, Settled (next a)) : Settled (reading >>= next) := by
  intro library other p kept
  obtain ⟨same, keeps⟩ := first library other p kept
  rw [run_bind, run_bind, ← same]
  cases run : reading library p with
  | none => exact ⟨rfl, nofun⟩
  | some answer => exact rest answer.1 library other answer.2 (keeps _ _ run)

theorem use {ask : Tokenizer engine → α × Tokenizer engine × List Warning}
    (keeps : ∀ tokenizer, (ask tokenizer).2.1.injections = tokenizer.injections) :
    Settled (Reading.use ask) := by
  refine fun library other p kept => ⟨rfl, ?_⟩
  rintro _ _ ⟨⟩
  exact (congrArg Option.isSome (keeps p.tokenizer)).trans kept

theorem rule? (id : RuleId) : Settled (Reading.rule? id : Reading engine _) := by
  refine fun library other p kept => ⟨rfl, ?_⟩
  rintro _ _ ⟨⟩
  exact kept

theorem warn (warning : Warning) : Settled (Reading.warn warning : Reading engine _) := by
  refine fun library other p kept => ⟨rfl, ?_⟩
  rintro _ _ ⟨⟩
  exact kept

theorem cut (scopes : ScopePath) (stop : Nat) :
    Settled (Reading.cut scopes stop : Reading engine _) := by
  refine fun library other p kept => ⟨rfl, ?_⟩
  rintro _ _ ⟨⟩
  exact kept

end Settled

end Reading

theorem Tokenizer.injections_scanner (tokenizer : Tokenizer engine) (key : ScannerKey)
    (filled : Option String) (patterns : Unit → List (Target × String)) :
    (tokenizer.scanner key filled patterns).2.1.injections = tokenizer.injections := by
  unfold Tokenizer.scanner
  split
  · rfl
  · dsimp only
    unfold Tokenizer.keep
    split <;> rfl

namespace Reading

theorem settled_enter (path : ScopePath) (scopes : Option String) :
    Settled (enter path scopes : Reading engine _) := by
  refine .use fun tokenizer => ?_
  obtain ⟨styles, entered⟩ := tokenizer.exists_styles_enterAll path scopes
  rw [entered]

/-! ## Matches -/

section Matches

variable (line : Line) (cursor : Cursor)

theorem settled_search (rule : Rule) (filled : Option String) :
    Settled (search line cursor rule filled : Reading engine _) := by
  unfold search
  refine .bind (.use fun tokenizer => ?_) fun _ => .pure _
  exact tokenizer.injections_scanner _ _ _

theorem settled_regularMatch : Settled (regularMatch line cursor : Reading engine _) := by
  unfold regularMatch
  refine .bind (.rule? _) fun rule => ?_
  split
  · exact settled_search line cursor _ _
  · exact .pure _

theorem settled_bestInjected (names : List String) (injections : List Injection)
    (best : Option Injected) :
    Settled (bestInjected line cursor names injections best : Reading engine _) := by
  induction injections generalizing best with
  | nil => exact .pure _
  | cons injection others ih =>
    unfold bestInjected
    split
    · refine .bind (.rule? _) fun rule => ?_
      split
      · exact ih best
      · refine .bind (settled_search line cursor _ none) fun found => ?_
        split
        · exact ih best
        · split
          · exact ih best
          · split
            · exact .pure _
            · exact ih _
    · exact ih best

/-- The library is not looked at, since the injections are there. -/
theorem settled_collected {next : List Injection → Reading engine α}
    (rest : ∀ injections, Settled (next injections)) :
    Settled (do
      let library ← read
      let injections ← use fun tokenizer => tokenizer.collected library
      next injections) := by
  intro library other p kept
  obtain ⟨injections, is⟩ := Option.isSome_iff_exists.mp kept
  have collected (library : Library) := Tokenizer.collected_of_injections library is
  have run (library : Library) : (do
      let library ← read
      let injections ← use fun tokenizer => tokenizer.collected library
      next injections : Reading engine α) library p =
        next injections library { p with warnings := p.warnings ++ [] } := by
    change next (p.tokenizer.collected library).1 library
      { p with
        tokenizer := (p.tokenizer.collected library).2.1
        warnings := p.warnings ++ (p.tokenizer.collected library).2.2 } = _
    rw [collected]
  rw [run, run]
  exact rest injections library other _ kept

theorem settled_nextMatch : Settled (nextMatch line cursor : Reading engine _) := by
  unfold nextMatch
  refine .bind (settled_regularMatch line cursor) fun regular =>
    settled_collected fun injections => ?_
  split
  · exact .pure _
  · exact .bind (settled_bestInjected line cursor _ _ none) fun _ => .pure _

end Matches

/-! ## Captures -/

theorem settled_closeUpTo (position : Nat) (captures : List OpenCapture) :
    Settled (closeUpTo position captures : Reading engine _) := by
  induction captures with
  | nil => exact .pure _
  | cons first others ih =>
    unfold closeUpTo
    split
    · exact .bind (.cut _ _) fun _ => ih
    · exact .pure _

theorem settled_closeAll (captures : List OpenCapture) :
    Settled (closeAll captures : Reading engine _) := by
  unfold closeAll
  induction captures with
  | nil => exact .pure _
  | cons first others ih =>
    rw [List.forM_eq_forM, List.forM_cons]
    exact .bind (.cut _ _) fun _ => ih

section Captures

variable {reread : Line → Cursor → Reading engine Nesting}
  (rereads : ∀ line cursor, Settled (reread line cursor)) (line : Line) (cursor : Cursor)
  (captures : Captures)

include rereads

theorem settled_again (rule : Rule) (inner : RuleId) (span : Span) :
    Settled (again reread line cursor captures rule inner span) := by
  unfold again
  refine .bind (settled_enter _ _) fun _ => .bind (settled_enter _ _) fun _ => ?_
  exact .bind (rereads _ _) fun _ => .pure _

theorem settled_openCapture (opened : List OpenCapture) (id : RuleId) (span : Span) :
    Settled (openCapture reread line cursor captures opened id span) := by
  unfold openCapture
  refine .bind (settled_closeUpTo _ _) fun opened => .bind (.cut _ _) fun _ => ?_
  refine .bind (.rule? id) fun rule => ?_
  split
  · exact .pure _
  · split
    · exact .bind (settled_again rereads line cursor captures _ _ span) fun _ => .pure _
    · split
      · exact .bind (settled_enter _ _) fun _ => .pure _
      · exact .pure _
    · exact .pure _

theorem settled_openCaptures (stop : Nat) (groups : List (Option RuleId × Option Span))
    (opened : List OpenCapture) :
    Settled (openCaptures reread line cursor captures stop groups opened) := by
  fun_induction openCaptures reread line cursor captures stop groups opened with
  | case1 => exact .pure _
  | case2 id span others opened empty ih => exact ih
  | case3 => exact .pure _
  | case4 id span others opened nonempty inside ih =>
    exact .bind (settled_openCapture rereads line cursor captures opened id span) ih
  | case5 group others opened none ih => exact ih

theorem settled_readCaptures (rules : List (Option RuleId)) :
    Settled (readCaptures reread line cursor captures rules) := by
  unfold readCaptures
  split
  · exact .bind (settled_openCaptures rereads line cursor _ _ _ _) fun _ => settled_closeAll _
  · exact .pure _

end Captures

/-! ## Steps -/

section Steps

variable {reread : Line → Cursor → Reading engine Nesting} (line : Line) (cursor : Cursor)

theorem settled_finish (nesting : Nesting) : Settled (finish line nesting : Reading engine _) :=
  .bind (.cut _ _) fun _ => .pure _

theorem settled_pass (found : SetMatch Target) :
    Settled (Reading.pass line cursor found : Reading engine _) := by
  unfold Reading.pass
  dsimp only
  generalize (if cursor.position < found.stop then found.stop else cursor.position + 1) = position
  split
  · exact settled_finish line _
  · exact .pure _

variable (rereads : ∀ line cursor, Settled (reread line cursor))

include rereads

theorem settled_close (found : SetMatch Target) : Settled (close reread line cursor found) := by
  unfold close
  dsimp only
  refine .bind (.cut _ _) fun _ => .bind (.rule? _) fun rule => ?_
  refine .bind (settled_readCaptures rereads line _ _ _) fun _ => .bind (.cut _ _) fun _ => ?_
  split
  · exact settled_finish line _
  · exact .pure _

theorem settled_openRegion (found : SetMatch Target) (rule : Rule) (frame : Frame)
    (opening : Matching) (source : Source) :
    Settled (openRegion reread line cursor found rule frame opening source) := by
  unfold openRegion
  dsimp only
  refine .bind (settled_readCaptures rereads line _ _ _) fun _ => .bind (.cut _ _) fun _ => ?_
  refine .bind (settled_enter _ _) fun _ => ?_
  generalize (if source.hasReference then
    some (source.resolveReferences line found.captures) else none) = pattern
  split
  · exact settled_finish line _
  · exact .pure _

theorem settled_take (found : SetMatch Target) (id : RuleId) :
    Settled (take reread line cursor found id) := by
  unfold take
  dsimp only
  refine .bind (.rule? id) fun rule => ?_
  split
  · exact settled_finish line _
  · split
    · exact settled_pass line cursor found
    refine .bind (.cut _ _) fun _ => .bind (settled_enter _ _) fun scopes => ?_
    split
    · refine .bind (settled_readCaptures rereads line _ _ _) fun _ => .bind (.cut _ _) fun _ => ?_
      exact .pure _
    · exact settled_openRegion line cursor rereads found _ _ _ _
    · exact settled_openRegion line cursor rereads found _ _ _ _
    · exact .bind (.warn _) fun _ => settled_finish line _
    · exact .bind (.warn _) fun _ => settled_finish line _

theorem settled_step : Settled (step reread line cursor) := by
  unfold step
  refine .bind (settled_nextMatch line cursor) fun found => ?_
  split
  · exact settled_finish line _
  · split
    · exact settled_close line cursor rereads _
    · exact settled_take line cursor rereads _ _
    · exact settled_finish line _

end Steps

/-! ## Lines -/

theorem settled_readFrom (steps : Nat) (line : Line) (cursor : Cursor) :
    Settled (readFrom steps line cursor : Reading engine _) := by
  induction steps generalizing line cursor with
  | zero => exact .failure
  | succ steps ih =>
    unfold readFrom
    refine .bind (settled_step line cursor ih) fun outcome => ?_
    split
    · exact .pure _
    · exact ih _ _

theorem settled_checkLevels {reread : Line → Cursor → Reading engine Nesting}
    (rereads : ∀ line cursor, Settled (reread line cursor)) (line : Line) (levels : List Nesting)
    (cursor : Cursor) : Settled (checkLevels reread line levels cursor) := by
  induction levels generalizing cursor with
  | nil => exact .pure _
  | cons level levels ih =>
    unfold checkLevels
    refine .bind (.rule? _) fun rule => ?_
    split
    · refine .bind (.use fun tokenizer => tokenizer.injections_scanner _ _ _) fun scanner => ?_
      split
      · exact .pure _
      · refine .bind (.cut _ _) fun _ => .bind (settled_readCaptures rereads line _ _ _) fun _ => ?_
        exact .bind (.cut _ _) fun _ => ih _
    · exact ih _

end Reading

/-- Once a tokenizer has its injections, it answers alike with any library. -/
theorem Tokenizer.reads_iff_of_isSome {tokenizer : Tokenizer engine}
    (kept : tokenizer.injections.isSome) (library other : Library) (text : String)
    (previous : Option Nesting) (styled : Bool) (reading : LineReading engine) :
    tokenizer.Reads library text previous styled reading ↔
      tokenizer.Reads other text previous styled reading := by
  refine exists_congr fun steps => ?_
  let cursor : Cursor :=
    { position := 0, firstLine := previous.isNone, nesting := tokenizer.resumed previous }
  have settled : Reading.Settled (do
      Reading.readFrom steps (terminated text)
        (← Reading.checkConditions (Reading.readFrom steps) (terminated text) cursor) :
        Reading engine Nesting) :=
    .bind (Reading.settled_checkLevels (Reading.settled_readFrom steps) _ _ _)
      fun _ => Reading.settled_readFrom steps _ _
  simp only [readLineWithin, ReaderT.run, StateT.run]
  rw [(settled library other _ kept).1]

end ScopeTokenizer
