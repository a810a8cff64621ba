import ScopeTokenizer.Proofs.Reading.Turning
import ScopeTokenizer.Proofs.Reading.Watching

/-!
# Watches that see what they expect

A watch keeps a line from an answer only by what it sees. If it allows a step wherever reading can
come to, a line is read to the same answer with it. Where reading can come to is said by a property
of nestings that all of reading keeps, and one of tokenizers that lasts.
-/

namespace ScopeTokenizer

open Grammar Pattern Style

variable {engine : Engine} {α β : Type}

/-- A property of nestings that reading keeps. Steps turn nestings, and the text of a capture is
read in a further region whose pattern is not known. -/
structure Grammar.RuleTable.Keeps (table : RuleTable) (Fit : Nesting → Prop) : Prop where
  turn {nesting next : Nesting} : Fit nesting → nesting.Turn table next → Fit next
  bare {nesting : Nesting} {frame : Frame} : Fit nesting → frame.pattern = none →
    Fit (.push nesting frame)

theorem Grammar.RuleTable.Keeps.turns {table : RuleTable} {Fit : Nesting → Prop}
    (keeps : table.Keeps Fit) {nesting next : Nesting} (fit : Fit nesting)
    (turns : nesting.Turns table next) : Fit next := by
  induction turns with
  | refl => exact fit
  | tail _ last ih => exact keeps.turn ih last

namespace Reading

/-- Whatever the first reading answers with a tokenizer of which something holds, the second one
does. -/
def Agrees (library : Library) (Held : Tokenizer engine → Prop) (first second : Reading engine α) :
    Prop :=
  ∀ p, Held p.tokenizer → ∀ a q, first library p = some (a, q) → second library p = some (a, q)

variable {library : Library} {Held : Tokenizer engine → Prop}

namespace Agrees

theorem refl (reading : Reading engine α) : Agrees library Held reading reading :=
  fun _ _ _ _ run => run

variable {post : α → Tokenizer engine → Prop} {first second : Reading engine α}
  {next other : α → Reading engine β}

theorem weaken {given : Tokenizer engine → Prop} (agrees : Agrees library Held first second)
    (enough : ∀ tokenizer, given tokenizer → Held tokenizer) :
    Agrees library given first second :=
  fun p held => agrees p (enough _ held)

/-- A fact that does not depend on the tokenizer may be taken out of what is given. -/
theorem of_and {fact : Prop} (agrees : fact → Agrees library Held first second) :
    Agrees library (fun tokenizer => fact ∧ Held tokenizer) first second :=
  fun p held => agrees held.1 p held.2

theorem bind (agrees : Agrees library Held first second) (yields : Yields library Held first post)
    (goesOn : ∀ a, Agrees library (post a) (next a) (other a)) :
    Agrees library Held (first >>= next) (second >>= other) := by
  intro p held b q run
  obtain ⟨a, between, run₁, run₂⟩ := run_bind_eq_some.mp run
  exact run_bind_eq_some.mpr ⟨a, between, agrees p held a between run₁,
    goesOn a between (yields p held a between run₁) b q run₂⟩

/-- Two ways to go on that agree. -/
theorem after (yields : Yields library Held first post)
    (goesOn : ∀ a, Agrees library (post a) (next a) (other a)) :
    Agrees library Held (first >>= next) (first >>= other) :=
  (refl first).bind yields goesOn

end Agrees

/-- Two loops that read on alike from the lines and nestings that are expected. -/
structure Rereads (library : Library) (table : RuleTable) (Held : Tokenizer engine → Prop)
    (Fit : Nesting → Prop) (Clear : Line → Prop)
    (reread other : Line → Cursor → Reading engine Nesting) : Prop where
  lasting : Lasting library table Held
  keeps : table.Keeps Fit
  truncate {line : Line} (stop : Nat) : Clear line → Clear (line.truncate stop)
  yields (line : Line) (cursor : Cursor) :
    Yields library Held (reread line cursor) fun _ => Held
  agrees {line : Line} {cursor : Cursor} : Clear line → Fit cursor.nesting →
    Agrees library Held (reread line cursor) (other line cursor)

namespace Rereads

variable {table : RuleTable} {Fit : Nesting → Prop} {Clear : Line → Prop}
  {reread other : Line → Cursor → Reading engine Nesting}
  (rereads : Rereads library table Held Fit Clear reread other)

include rereads

theorem yields_enter (path : ScopePath) (scopes : Option String) :
    Yields library Held (Reading.enter path scopes) fun _ => Held :=
  (rereads.lasting.yields_enter path scopes).post fun _ _ held => held.2

theorem yields_rule? (id : RuleId) : Yields library Held (Reading.rule? id) fun _ => Held :=
  (rereads.lasting.yields_rule? id).post fun _ _ held => held.2.2

variable {line : Line} {cursor : Cursor} (clear : Clear line)

include clear

/-! ## Captures -/

section Captures

variable (fit : Fit cursor.nesting) (captures : Captures)

include fit

theorem again (rule : Rule) (inner : RuleId) (span : Span) :
    Agrees library Held (Reading.again reread line cursor captures rule inner span)
      (Reading.again other line cursor captures rule inner span) := by
  refine .after (rereads.yields_enter _ _) fun nameScopes =>
    .after (rereads.yields_enter _ _) fun contentScopes => ?_
  exact (rereads.agrees (rereads.truncate span.2 clear) (rereads.keeps.bare fit rfl)).bind
    (rereads.yields _ _) fun _ => .refl _

theorem openCapture (opened : List OpenCapture) (id : RuleId) (span : Span) :
    Agrees library Held (Reading.openCapture reread line cursor captures opened id span)
      (Reading.openCapture other line cursor captures opened id span) := by
  refine .after (.of_ensures (.closeUpTo _ _)) fun opened => .after (.of_ensures (.cut _ _))
    fun _ => .after (rereads.yields_rule? id) fun answer => ?_
  cases answer with
  | none => exact .refl _
  | some rule =>
    obtain ⟨number, name, kind⟩ := rule
    cases kind with
    | single | container | region | lines => exact .refl _
    | capture contentName inner =>
      cases inner with
      | none => exact .refl _
      | some inner =>
        exact (rereads.again clear fit captures _ inner span).bind
          (rereads.lasting.yields_again rereads.yields line cursor captures _ inner span)
          fun _ => .refl _

theorem openCaptures (stop : Nat) (groups : List (Option RuleId × Option Span))
    (opened : List OpenCapture) :
    Agrees library Held (Reading.openCaptures reread line cursor captures stop groups opened)
      (Reading.openCaptures other line cursor captures stop groups opened) := by
  induction groups generalizing opened with
  | nil => exact .refl _
  | cons group others ih =>
    obtain ⟨id, span⟩ := group
    cases id with
    | none => simpa only [Reading.openCaptures] using ih opened
    | some id =>
      cases span with
      | none => simpa only [Reading.openCaptures] using ih opened
      | some span =>
        simp only [Reading.openCaptures]
        split
        · exact ih opened
        · split
          · exact .refl _
          · exact (rereads.openCapture clear fit captures opened id span).bind
              (rereads.lasting.yields_openCapture rereads.yields line cursor captures opened id
                span) ih

theorem readCaptures (rules : List (Option RuleId)) :
    Agrees library Held (Reading.readCaptures reread line cursor captures rules)
      (Reading.readCaptures other line cursor captures rules) := by
  unfold Reading.readCaptures
  split
  · exact (rereads.openCaptures clear fit _ _ _ _).bind
      (rereads.lasting.yields_openCaptures rereads.yields line cursor _ _ _ _) fun _ => .refl _
  · exact .refl _

end Captures

/-! ## Steps -/

section Steps

variable (fit : Fit cursor.nesting) (found : SetMatch Target)

include fit

theorem close :
    Agrees library Held (Reading.close reread line cursor found)
      (Reading.close other line cursor found) := by
  refine .after (.of_ensures (.cut _ _)) fun _ => .after (rereads.yields_rule? _) fun rule => ?_
  have closing := rereads.keeps.turn fit (.closing _)
  exact (rereads.readCaptures clear closing _ _).bind
    (rereads.lasting.yields_readCaptures rereads.yields _ _ _ _) fun _ => .refl _

/-- A region is opened in one whose pattern is not known yet. -/
theorem openRegion (rule : Rule) {frame : Frame} (bare : frame.pattern = none) (opening : Matching)
    (source : Source) :
    Agrees library Held (Reading.openRegion reread line cursor found rule frame opening source)
      (Reading.openRegion other line cursor found rule frame opening source) :=
  (rereads.readCaptures clear (rereads.keeps.bare fit bare) _ _).bind
    (rereads.lasting.yields_readCaptures rereads.yields _ _ _ _) fun _ => .refl _

theorem take (id : RuleId) :
    Agrees library Held (Reading.take reread line cursor found id)
      (Reading.take other line cursor found id) := by
  refine .after (rereads.yields_rule? id) fun answer => ?_
  cases answer with
  | none => exact .refl _
  | some rule =>
    dsimp only
    split
    · exact .refl _
    refine .after (.of_ensures (.cut _ _)) fun _ => .after (rereads.yields_enter _ _)
      fun scopes => ?_
    obtain ⟨number, name, kind⟩ := rule
    cases kind with
    | container | capture => exact .refl _
    | single matching =>
      exact (rereads.readCaptures clear (rereads.keeps.bare fit rfl) _ _).bind
        (rereads.lasting.yields_readCaptures rereads.yields _ _ _ _) fun _ => .refl _
    | region => exact rereads.openRegion clear fit found _ rfl _ _
    | lines => exact rereads.openRegion clear fit found _ rfl _ _

theorem step :
    Agrees library Held (Reading.step reread line cursor) (Reading.step other line cursor) := by
  refine .after (rereads.lasting.yields_nextMatch line cursor) fun answer => ?_
  cases answer with
  | none => exact .refl _
  | some found =>
    dsimp only
    cases found.label with
    | closing => exact rereads.close clear fit found
    | rule id => exact rereads.take clear fit found id
    | condition => exact .refl _

end Steps

/-! ## Lines -/

theorem checkLevels {levels : List Nesting} (around : ∀ level ∈ levels, Fit level) :
    Agrees library Held (Reading.checkLevels reread line levels cursor)
      (Reading.checkLevels other line levels cursor) := by
  induction levels generalizing cursor with
  | nil => exact .refl _
  | cons level levels ih =>
    obtain ⟨first, others⟩ := List.forall_mem_cons.mp around
    unfold Reading.checkLevels
    refine .after (rereads.lasting.yields_rule? _) fun answer => ?_
    have pass : Agrees library (fun tokenizer =>
        (∀ found ∈ answer, table.rule? level.top.rule = some found) ∧
          answer = tokenizer.rule? level.top.rule ∧ Held tokenizer)
        (Reading.checkLevels reread line levels cursor)
        (Reading.checkLevels other line levels cursor) :=
      (ih others).weaken fun _ held => held.2.2
    cases answer with
    | none => exact pass
    | some rule =>
      obtain ⟨number, name, kind⟩ := rule
      cases kind with
      | single | container | region | capture => exact pass
      | lines contentName opening condition inner =>
        refine .after (.of_right (rereads.lasting.yields_conditionScanner _ _)) fun scanner => ?_
        cases scanner.findAt line cursor.position with
        | none => exact .refl _
        | some found =>
          refine .after (.of_ensures (.cut _ _)) fun _ => ?_
          refine (rereads.readCaptures clear first _ _).bind
            (rereads.lasting.yields_readCaptures rereads.yields _ _ _ _) fun _ => ?_
          exact .after (.of_ensures (.cut _ _)) fun _ => ih others

end Rereads

/-! ## Watched lines -/

section Watched

variable {table : RuleTable} {Fit : Nesting → Prop} {Clear : Line → Prop} {watch : Watch engine}

/-- Wherever reading can come to, the watch allows a step. -/
structure Allows (library : Library) (table : RuleTable) (Held : Tokenizer engine → Prop)
    (Fit : Nesting → Prop) (Clear : Line → Prop) (watch : Watch engine) : Prop where
  lasting : Lasting library table Held
  keeps : table.Keeps Fit
  truncate {line : Line} (stop : Nat) : Clear line → Clear (line.truncate stop)
  allows {line : Line} {cursor : Cursor} {p : Progress engine} : Clear line → Fit cursor.nesting →
    Held p.tokenizer → watch line cursor library p = true

namespace Allows

variable (allows : Allows library table Held Fit Clear watch)

include allows

theorem rereads (steps : Nat) :
    Rereads library table Held Fit Clear (readFrom steps) (watchedFrom watch steps) := by
  induction steps with
  | zero =>
    refine ⟨allows.lasting, allows.keeps, allows.truncate, allows.lasting.yields_reread 0, ?_⟩
    rintro line cursor - - p - nesting q run
    cases run
  | succ steps ih =>
    refine ⟨allows.lasting, allows.keeps, allows.truncate,
      allows.lasting.yields_reread (steps + 1), ?_⟩
    intro line cursor clear fit p held nesting q run
    rw [run_watchedFrom, if_pos (allows.allows clear fit held)]
    have goesOn : Agrees library Held (stepBy (readFrom steps) line cursor)
        (stepBy (watchedFrom watch steps) line cursor) := by
      refine (ih.step clear fit).bind (allows.lasting.yields_step ih.yields) fun outcome =>
        .of_and fun turns => ?_
      cases outcome with
      | done nesting => exact .refl _
      | next cursor => exact ih.agrees clear (allows.keeps.turns fit turns)
    exact goesOn p held nesting q run

/-- Whatever a line is read to, it is read to while it is watched. -/
theorem watchLine_of_readLineWithin {tokenizer : Tokenizer engine} {text : String}
    {previous : Option Nesting} {styled : Bool} {steps : Nat} {reading : LineReading engine}
    (held : Held tokenizer) (clear : Clear (Tokenizer.terminated text))
    (fit : Fit (tokenizer.resumed previous))
    (run : tokenizer.readLineWithin steps library text previous styled = some reading) :
    tokenizer.watchLine watch steps library text previous styled = some reading := by
  let line := Tokenizer.terminated text
  let cursor : Cursor :=
    { position := 0, firstLine := previous.isNone, nesting := tokenizer.resumed previous }
  have rereads := allows.rereads steps
  have levels (level : Nesting) (mem : level ∈ cursor.nesting.levels) :
      Nesting.Turns table cursor.nesting level :=
    Nesting.turns_of_mem_levels mem
  have whole : Agrees library Held
      (checkConditions (readFrom steps) line cursor >>= fun start => readFrom steps line start)
      (checkConditions (watchedFrom watch steps) line cursor >>=
        fun start => watchedFrom watch steps line start) := by
    refine (rereads.checkLevels clear fun level mem =>
      allows.keeps.turns fit (levels level mem)).bind
      (allows.lasting.yields_checkLevels rereads.yields line levels rfl) fun start =>
        .of_and fun turns => ?_
    exact rereads.agrees clear (allows.keeps.turns fit turns)
  obtain ⟨⟨nesting, progress⟩, answered, rfl⟩ := Option.map_eq_some_iff.mp run
  exact Option.map_eq_some_iff.mpr ⟨_, whole _ held _ _ answered, rfl⟩

end Allows

end Watched

end Reading

end ScopeTokenizer
