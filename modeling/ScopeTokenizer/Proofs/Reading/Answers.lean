import ScopeTokenizer.Proofs.Reading.Parallel

/-!
# Answers of reading a line

Reading a line is bounded by a number of steps only to have it end in any case. What it
answers does not depend on that number: more steps lead to the same answer. So a line has at
most one answer, which is the one that `readLine` gives if its own number of steps suffices.
-/

namespace ScopeTokenizer

open Grammar Pattern Style

variable {engine : Engine}

namespace Tokenizer

/-- Reading a line comes to an end, with this answer. -/
def Reads (tokenizer : Tokenizer engine) (library : Library) (text : String)
    (previous : Option Nesting) (styled : Bool) (reading : LineReading engine) : Prop :=
  ∃ steps, tokenizer.readLineWithin steps library text previous styled = some reading

theorem reads_of_readLine {tokenizer : Tokenizer engine} {library : Library} {text : String}
    {previous : Option Nesting} {styled : Bool} {reading : LineReading engine}
    (run : tokenizer.readLine library text previous styled = some reading) :
    tokenizer.Reads library text previous styled reading :=
  ⟨_, run⟩

end Tokenizer

/-- What reading has come to at the end of a line. -/
def LineReading.progress (reading : LineReading engine) : Progress engine :=
  ⟨reading.tokenizer, reading.lineTokens, reading.warnings⟩

namespace Simulation

open Reading

/-- Readings that a simulation relates, and which have both come to the end of the line. -/
structure SameReading (sim : Simulation engine) (text : String)
    (first second : LineReading engine) : Prop where
  nesting : sim.Nestings true first.nesting second.nesting
  progress : sim.Related true first.progress second.progress
  length : first.length = (Tokenizer.terminated text).length
  length_eq : second.length = first.length
  reached : first.length ≤ first.lineTokens.stop

/-- Two readings of a line that begin alike answer alike. -/
theorem readLineWithin (sim : Simulation engine) {stage : Bool} {t u : Tokenizer engine}
    {fewer more : Nat} (le : fewer ≤ more) {text : String} {previous other : Option Nesting}
    {styled twin : Bool} (first : previous.isNone = other.isNone)
    (begins : sim.Related stage { tokenizer := t, tokens := { styled } }
      { tokenizer := u, tokens := { styled := twin } })
    (resumed : sim.Nestings stage (t.resumed previous) (u.resumed other))
    (inside : sim.Stop (Tokenizer.terminated text).length) {reading : LineReading engine}
    (run : t.readLineWithin fewer sim.library text previous styled = some reading) :
    ∃ answer, u.readLineWithin more sim.library text other twin = some answer ∧
      sim.SameReading text reading answer := by
  have cursors : sim.Cursors stage
      { position := 0, firstLine := previous.isNone, nesting := t.resumed previous }
      { position := 0, firstLine := other.isNone, nesting := u.resumed other } :=
    ⟨rfl, first, rfl, resumed⟩
  have follows := (follows_checkConditions (rereads_readFrom le) inside cursors).bind
    fun a b => Follows.of_and fun cursors => follows_readFrom le cursors inside
  simp only [Tokenizer.readLineWithin] at run ⊢
  obtain ⟨⟨nesting, p⟩, answered, rfl⟩ := Option.map_eq_some_iff.mp run
  obtain ⟨twins, q, same, nestings, related, reached⟩ := follows _ _ begins nesting p answered
  exact ⟨_, Option.map_eq_some_iff.mpr ⟨_, same, rfl⟩, nestings, related, rfl, rfl, reached⟩

theorem reads (sim : Simulation engine) {stage : Bool} {t u : Tokenizer engine}
    {text : String} {previous other : Option Nesting} {styled twin : Bool}
    (first : previous.isNone = other.isNone)
    (begins : sim.Related stage { tokenizer := t, tokens := { styled } }
      { tokenizer := u, tokens := { styled := twin } })
    (resumed : sim.Nestings stage (t.resumed previous) (u.resumed other))
    (inside : sim.Stop (Tokenizer.terminated text).length) {reading : LineReading engine}
    (run : t.Reads sim.library text previous styled reading) :
    ∃ answer, u.Reads sim.library text other twin answer ∧
      sim.SameReading text reading answer := by
  obtain ⟨steps, run⟩ := run
  obtain ⟨answer, same, alike⟩ :=
    sim.readLineWithin (Nat.le_refl steps) first begins resumed inside run
  exact ⟨answer, ⟨steps, same⟩, alike⟩

/-! ## A reading and itself -/

variable {sim : Simulation engine} {stage : Bool}

/-- If only equal scopes are related, so are only equal nestings. -/
theorem Nestings.eq (equal : ∀ a b, sim.Paths a b → a = b) {first second : Nesting}
    (alike : sim.Nestings stage first second) : first = second := by
  have frames_eq {first second : Frame} (frames : sim.Frames stage first second) :
      first = second := by
    cases first
    cases second
    simp only [Frame.mk.injEq]
    exact ⟨frames.depth, frames.rule, frames.pattern, equal _ _ frames.nameScopes,
      equal _ _ frames.contentScopes, frames.tookLineEnd, frames.entered, frames.anchor⟩
  induction alike with
  | root frames _ => rw [frames_eq frames]
  | above _ frames ih => rw [ih, frames_eq frames]

/-- Every reading is related to itself, with a property of its tokens that each further token
keeps. -/
def diagonal (library : Library) (Stop : Nat → Prop) (Keeps : LineTokens → Prop)
    (stop_of_le : ∀ n m, Stop n → m ≤ n → Stop m)
    (stop_of_found : ∀ (scanner : Scanner engine) (line : Line) (position : Nat)
      (found : SetMatch Target), Stop line.length →
        scanner.findAt line position = some found →
        Stop found.start ∧ Stop found.stop ∧
          ∀ span, some span ∈ found.captures → Stop span.1 ∧ Stop span.2)
    (add : ∀ tokens scopes stop, Keeps tokens → Stop stop → Keeps (tokens.add scopes stop)) :
    Simulation engine where
  library
  Stop
  Paths a b := a = b
  Ground _ _ := True
  Known _ _ := True
  Compiled _ _ _ := True
  Related _ p q := p = q ∧ Keeps p.tokens
  stop_of_le := stop_of_le _ _
  stop_of_found := stop_of_found _ _ _ _
  names_eq := fun equal => congrArg ScopePath.names equal
  ground_closing := id
  known_of_early := id
  related_of_late := id
  known_reference := fun _ _ => trivial
  enter := by
    rintro _ p _ a _ scopes ⟨rfl, keeps⟩ rfl
    exact ⟨rfl, rfl, keeps⟩
  cut := by
    rintro _ p _ a _ stop ⟨rfl, keeps⟩ rfl here
    exact ⟨rfl, add p.tokens a stop keeps here⟩
  warn := by
    rintro _ p _ warning ⟨rfl, keeps⟩
    exact ⟨rfl, keeps⟩
  rule? := by
    rintro _ p _ id ⟨rfl, -⟩ -
    exact ⟨rfl, fun _ _ => trivial⟩
  ruleScanner := by
    rintro _ p _ id rule filled anchors ⟨rfl, keeps⟩ -
    exact ⟨rfl, fun _ _ _ _ => trivial, rfl, keeps⟩
  conditionScanner := by
    rintro _ p _ id number name contentName opening condition inner filled anchors ⟨rfl, keeps⟩ -
    exact ⟨rfl, rfl, keeps⟩
  collected := by
    rintro p _ ⟨rfl, keeps⟩
    exact ⟨rfl, fun _ _ => trivial, rfl, keeps⟩

/-- A nesting is related to itself if its frames are. -/
theorem Nestings.of_frames {nesting : Nesting}
    (frames : ∀ frame ∈ nesting.frames, sim.Frames stage frame frame)
    (ground : sim.Ground nesting.bottom nesting.bottom) :
    sim.Nestings stage nesting nesting := by
  induction nesting with
  | root frame => exact .root (frames frame (List.mem_singleton_self frame)) ground
  | above outer frame ih =>
    rw [Nesting.frames_above] at frames
    refine .above (ih (fun frame mem => frames frame (List.mem_append_left _ mem)) ground) ?_
    exact frames frame (List.mem_append_right _ (List.mem_singleton_self frame))

/-- A nesting that is related to itself has frames that are. -/
theorem Nestings.frames {nesting : Nesting} (alike : sim.Nestings stage nesting nesting)
    {frame : Frame} (mem : frame ∈ nesting.frames) : sim.Frames stage frame frame := by
  induction nesting with
  | root other =>
    obtain rfl := List.mem_singleton.mp mem
    exact alike.top
  | above outer other ih =>
    rw [Nesting.frames_above] at mem
    rcases List.mem_append.mp mem with mem | mem
    · exact ih alike.pop mem
    · obtain rfl := List.mem_singleton.mp mem
      exact alike.top

theorem Nestings.ground {first second : Nesting} (alike : sim.Nestings stage first second) :
    sim.Ground first.bottom second.bottom := by
  induction alike with
  | root _ ground => exact ground
  | above _ _ ih => exact ih

/-- A simulation that knows all rules relates a nesting to itself. -/
theorem Nestings.refl (paths : ∀ a, sim.Paths a a) (ground : ∀ frame, sim.Ground frame frame)
    (known : ∀ id, sim.Known stage id) (nesting : Nesting) :
    sim.Nestings stage nesting nesting :=
  .of_frames (fun _ _ => ⟨rfl, rfl, known _, rfl, paths _, paths _, rfl, rfl, rfl⟩) (ground _)

/-! ## Equal readings -/

/-- Where tokens may end anywhere, they may end where a match begins and ends. -/
theorem stops_anywhere {scanner : Scanner engine} {line : Line} {position : Nat}
    {found : SetMatch Target} (_ : True) (_ : scanner.findAt line position = some found) :
    True ∧ True ∧ ∀ span, some span ∈ found.captures → True ∧ True :=
  ⟨trivial, trivial, fun _ _ => ⟨trivial, trivial⟩⟩

/-- Readings that are equal. -/
def same (library : Library) : Simulation engine :=
  diagonal library (fun _ => True) (fun _ => True) (fun _ _ _ _ => trivial)
    (@stops_anywhere engine) (fun _ _ _ _ _ => trivial)

variable {library : Library}

theorem nestings_same (stage : Bool) (nesting : Nesting) :
    (same library : Simulation engine).Nestings stage nesting nesting :=
  .refl (fun _ => rfl) (fun _ => trivial) (fun _ => trivial) nesting

theorem cursors_same (stage : Bool) (cursor : Cursor) :
    (same library : Simulation engine).Cursors stage cursor cursor :=
  ⟨rfl, rfl, rfl, nestings_same stage cursor.nesting⟩

theorem Nestings.eq_of_same {first second : Nesting}
    (alike : (same library : Simulation engine).Nestings stage first second) : first = second :=
  alike.eq fun _ _ equal => equal

theorem Cursors.eq_of_same {first second : Cursor}
    (alike : (same library : Simulation engine).Cursors stage first second) : first = second := by
  cases first
  cases second
  simp only [Cursor.mk.injEq]
  exact ⟨alike.position, alike.firstLine, alike.anchor, alike.nesting.eq_of_same⟩

theorem Outcomes.eq_of_same {first second : Outcome}
    (alike : (same library : Simulation engine).Outcomes first second) : first = second := by
  cases alike with
  | next cursors => rw [cursors.eq_of_same]
  | done nestings => rw [nestings.eq_of_same]

end Simulation

namespace Tokenizer

open Simulation

variable {tokenizer : Tokenizer engine} {library : Library} {text : String}
  {previous : Option Nesting} {styled : Bool}

/-- A reading that has come to an end is the same in more steps. -/
theorem readLineWithin_mono {fewer more : Nat} (le : fewer ≤ more)
    {reading : LineReading engine}
    (run : tokenizer.readLineWithin fewer library text previous styled = some reading) :
    tokenizer.readLineWithin more library text previous styled = some reading := by
  obtain ⟨answer, again, alike⟩ := (same library).readLineWithin le rfl ⟨rfl, trivial⟩
    (nestings_same false _) trivial run
  suffices equal : reading = answer by rwa [equal]
  have nestings := alike.nesting.eq_of_same
  have progress := alike.progress.1
  simp only [LineReading.progress, Progress.mk.injEq] at progress
  obtain ⟨lineTokens, length, nesting, tokenizer, warnings⟩ := reading
  cases answer
  simp only [LineReading.mk.injEq]
  exact ⟨progress.2.1, alike.length_eq.symm, nestings, progress.1, progress.2.2⟩

/-- A line has at most one answer. -/
theorem Reads.unique {reading other : LineReading engine}
    (first : tokenizer.Reads library text previous styled reading)
    (second : tokenizer.Reads library text previous styled other) : reading = other := by
  obtain ⟨n, first⟩ := first
  obtain ⟨m, second⟩ := second
  have left := readLineWithin_mono (Nat.le_max_left n m) first
  have right := readLineWithin_mono (Nat.le_max_right n m) second
  rw [left] at right
  exact Option.some.inj right

end Tokenizer

end ScopeTokenizer
