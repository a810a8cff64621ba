import ScopeTokenizer.Proofs.Reading.Settling
import ScopeTokenizer.Proofs.Registry.Replacing
import ScopeTokenizer.Proofs.Tokenizer.Histories

/-!
# What a loaded grammar depends on

The rules of a grammar are compiled when it is loaded, and its injections are collected when its
first line is read. Two histories of a registry with the same library at these two moments lead to
tokenizers that read lines alike under the same theme, whatever else was added before, between and
afterwards. What is added between the two moments shows in the injections.
-/

namespace ScopeTokenizer

open Grammar Pattern Style Text

variable {engine : Engine}

/-! ## Other themes at first -/

/-- Under another theme a grammar compiles to the same tokenizer, but for the theme. -/
theorem Tokenizer.ofGrammar_withTheme {grammar : GrammarDef} {library : Library}
    {languages : Languages} {theme : Theme} {origin : Tokenizer engine}
    (compiled : ofGrammar engine grammar library languages theme = .ok origin) (other : Theme) :
    ofGrammar engine grammar library languages other = .ok (origin.withTheme other) := by
  obtain ⟨named, root, compilation, run, rfl⟩ := ofGrammar_eq_ok_iff.mp compiled
  exact ofGrammar_eq_ok_iff.mpr ⟨named, root, compilation, run, rfl⟩

theorem Tokenizer.injections_ofGrammar {grammar : GrammarDef} {library : Library}
    {languages : Languages} {theme : Theme} {origin : Tokenizer engine}
    (compiled : ofGrammar engine grammar library languages theme = .ok origin) :
    origin.injections = none := by
  obtain ⟨-, root, compilation, -, rfl⟩ := ofGrammar_eq_ok_iff.mp compiled
  rfl

/-- What happens to a tokenizer with another theme happens to the tokenizer itself. -/
theorem History.of_withTheme {library : Library} {origin tokenizer : Tokenizer engine}
    {first theme : Theme} {given : List Nesting}
    (history : History library (origin.withTheme first) theme tokenizer given) :
    History library origin theme tokenizer given := by
  induction history with
  | now => exact .restyled first .now
  | started _ ih => exact .started ih
  | asked _ asked ih => exact .asked ih asked
  | line _ taken run ih => exact .line ih taken run
  | restyled next _ ih => exact .restyled next ih

theorem Tokenizer.isSome_injections_collected (tokenizer : Tokenizer engine) (library : Library) :
    (tokenizer.collected library).2.1.injections.isSome := by
  unfold collected
  split
  · next is => rw [is]; rfl
  · rfl

namespace Registry

/-! ## What happens to a registry -/

/-- What can happen to a registry and to the tokenizer of one of its grammars, from the time when
that was made. `first` is the library from which its injections were collected, if they were, and
`given` are the nestings that it has given. -/
inductive Later (scope : String) (start : Registry engine) :
    Registry engine → Option Library → List Nesting → Prop where
  | now : Later scope start start none []
  | changed {registry : Registry engine} {first : Option Library} {given : List Nesting}
      (change : Change) :
      Later scope start registry first given → Later scope start (registry.apply change) first given
  | optioned {registry : Registry engine} {first : Option Library} {given : List Nesting}
      (other : String) (languages : Languages) :
      Later scope start registry first given →
      Later scope start (registry.setLanguages other languages) first given
  | themed {registry : Registry engine} {first : Option Library} {given : List Nesting}
      (theme : Theme) :
      Later scope start registry first given →
      Later scope start (registry.setTheme theme) first given
  | loaded {registry after : Registry engine} {first : Option Library} {given : List Nesting}
      {other : String} {tokenizer : Tokenizer engine} :
      Later scope start registry first given → registry.load other = .ok (tokenizer, after) →
      Later scope start after first given
  | elsewhere {registry : Registry engine} {first : Option Library} {given : List Nesting}
      {other : String} (tokenizer : Tokenizer engine) :
      Later scope start registry first given → other ≠ scope →
      Later scope start (registry.update other tokenizer) first given
  | restyled {registry : Registry engine} {first : Option Library} {given : List Nesting}
      {tokenizer : Tokenizer engine} (theme : Theme) :
      Later scope start registry first given → registry.loaded.find? scope = some tokenizer →
      Later scope start (registry.update scope (tokenizer.withTheme theme)) first given
  | started {registry : Registry engine} {first : Option Library} {given : List Nesting}
      {tokenizer : Tokenizer engine} :
      Later scope start registry first given → registry.loaded.find? scope = some tokenizer →
      Later scope start
        (registry.update scope (tokenizer.styleOf tokenizer.scopeName).2) first
        (tokenizer.initial :: given)
  | styled {registry : Registry engine} {first : Option Library} {given : List Nesting}
      {tokenizer : Tokenizer engine} (name : String) :
      Later scope start registry first given → registry.loaded.find? scope = some tokenizer →
      Later scope start (registry.update scope (tokenizer.styleOf name).2) first given
  | collected {registry : Registry engine} {first : Option Library} {given : List Nesting}
      {tokenizer : Tokenizer engine} :
      Later scope start registry first given → registry.loaded.find? scope = some tokenizer →
      Later scope start (registry.update scope (tokenizer.collected registry.library).2.1)
        (some (first.getD registry.library)) given
  | line {registry : Registry engine} {first : Option Library} {given : List Nesting}
      {tokenizer : Tokenizer engine} {text : String} {previous : Option Nesting} {styled : Bool}
      {reading : LineReading engine} :
      Later scope start registry first given → registry.loaded.find? scope = some tokenizer →
      (∀ nesting ∈ previous, nesting ∈ given) →
      tokenizer.Reads registry.library text previous styled reading →
      Later scope start (registry.update scope reading.tokenizer)
        (some (first.getD registry.library)) (reading.nesting :: given)

/-- The tokenizer of a grammar in a registry, with what it has collected its injections from. As
long as that is open, its history may be one with any library. -/
structure Holds (scope : String) (origin : Tokenizer engine) (registry : Registry engine)
    (first : Option Library) (given : List Nesting) (tokenizer : Tokenizer engine) : Prop where
  loaded : registry.loaded.find? scope = some tokenizer
  history (library : Library) : (∀ other ∈ first, other = library) →
    History library origin tokenizer.styler.theme tokenizer given
  settled : tokenizer.injections.isSome = first.isSome

namespace Holds

variable {scope : String} {origin tokenizer : Tokenizer engine} {registry : Registry engine}
  {first : Option Library} {given : List Nesting}

theorem of_loaded (holds : Holds scope origin registry first given tokenizer)
    {other : Registry engine} (same : other.loaded.find? scope = registry.loaded.find? scope) :
    Holds scope origin other first given tokenizer :=
  ⟨same.trans holds.loaded, holds.history, holds.settled⟩

/-- A history with the library that the injections were collected from, or would be now. -/
theorem history_getD (holds : Holds scope origin registry first given tokenizer) :
    History (first.getD registry.library) origin tokenizer.styler.theme tokenizer given :=
  holds.history _ fun other mem => by rw [Option.mem_def.mp mem, Option.getD_some]

theorem reads_iff (holds : Holds scope origin registry first given tokenizer) (text : String)
    (previous : Option Nesting) (styled : Bool) (reading : LineReading engine) :
    tokenizer.Reads registry.library text previous styled reading ↔
      tokenizer.Reads (first.getD registry.library) text previous styled reading := by
  cases first with
  | none => exact .rfl
  | some library => exact Tokenizer.reads_iff_of_isSome holds.settled _ _ _ _ _ _

end Holds

theorem find?_loaded_update (registry : Registry engine) (scope : String)
    (tokenizer : Tokenizer engine) :
    (registry.update scope tokenizer).loaded.find? scope = some tokenizer := by
  simp [update]

theorem find?_loaded_update_of_ne (registry : Registry engine) {scope other : String}
    (apart : other ≠ scope) (tokenizer : Tokenizer engine) :
    (registry.update other tokenizer).loaded.find? scope = registry.loaded.find? scope := by
  simp [update, apart]

/-- Loading a grammar leaves the tokenizers as they are that were made before. -/
theorem find?_loaded_of_load {registry after : Registry engine} {scope other : String}
    {tokenizer made : Tokenizer engine} (there : registry.loaded.find? scope = some tokenizer)
    (run : registry.load other = .ok (made, after)) :
    after.loaded.find? scope = some tokenizer := by
  rcases cases_of_load run with ⟨-, rfl⟩ | ⟨missing, rfl, -⟩
  · exact there
  · have apart : other ≠ scope := by
      rintro rfl
      cases missing.symm.trans there
    rw [find?_loaded_update_of_ne registry apart, there]

/-! ## One step -/

namespace Holds

variable {scope : String} {origin tokenizer : Tokenizer engine} {registry : Registry engine}
  {first : Option Library} {given : List Nesting}

theorem eq_of_find? (holds : Holds scope origin registry first given tokenizer)
    {other : Tokenizer engine} (found : registry.loaded.find? scope = some other) :
    other = tokenizer :=
  Option.some.inj (found.symm.trans holds.loaded)

theorem themed (holds : Holds scope origin registry first given tokenizer) (theme : Theme) :
    Holds scope origin (registry.setTheme theme) first given (tokenizer.withTheme theme) where
  loaded := by simp [setTheme, holds.loaded]
  history library all := (holds.history library all).restyled theme
  settled := holds.settled

theorem restyled (holds : Holds scope origin registry first given tokenizer) (theme : Theme) :
    Holds scope origin (registry.update scope (tokenizer.withTheme theme)) first given
      (tokenizer.withTheme theme) where
  loaded := find?_loaded_update _ _ _
  history library all := (holds.history library all).restyled theme
  settled := holds.settled

theorem styled (holds : Holds scope origin registry first given tokenizer) (name : String) :
    Holds scope origin (registry.update scope (tokenizer.styleOf name).2) first given
      (tokenizer.styleOf name).2 := by
  obtain ⟨styles, same⟩ := tokenizer.exists_styles_styleOf name
  refine ⟨find?_loaded_update _ _ _, fun library all => ?_, by rw [same]; exact holds.settled⟩
  have styled := (holds.history library all).asked (.styled name)
  rw [same] at styled ⊢
  exact styled

/-- The first nesting is given with the style of the scope of the grammar. -/
theorem started (holds : Holds scope origin registry first given tokenizer) :
    Holds scope origin (registry.update scope (tokenizer.styleOf tokenizer.scopeName).2) first
      (tokenizer.initial :: given) (tokenizer.styleOf tokenizer.scopeName).2 := by
  obtain ⟨styles, same⟩ := tokenizer.exists_styles_styleOf tokenizer.scopeName
  refine ⟨find?_loaded_update _ _ _, fun library all => ?_, by rw [same]; exact holds.settled⟩
  have started := (holds.history library all).started
  rw [same] at started ⊢
  exact started

/-- Injections are collected from the library of the first time. -/
theorem collected (holds : Holds scope origin registry first given tokenizer) :
    Holds scope origin (registry.update scope (tokenizer.collected registry.library).2.1)
      (some (first.getD registry.library)) given (tokenizer.collected registry.library).2.1 := by
  have theme := congrArg Styler.theme (tokenizer.collected_root_styler registry.library).2
  refine ⟨find?_loaded_update _ _ _, fun library all => ?_,
    tokenizer.isSome_injections_collected registry.library⟩
  obtain rfl := all _ rfl
  rw [theme]
  cases first with
  | none => exact (holds.history registry.library nofun).asked .collected
  | some library =>
    obtain ⟨injections, is⟩ := Option.isSome_iff_exists.mp holds.settled
    rw [Tokenizer.collected_of_injections _ is]
    exact holds.history_getD

/-- A line is read with the injections of the library of the first time. -/
theorem line (holds : Holds scope origin registry first given tokenizer)
    (coherent : origin.Coherent) {text : String} {previous : Option Nesting} {styled : Bool}
    {reading : LineReading engine} (taken : ∀ nesting ∈ previous, nesting ∈ given)
    (run : tokenizer.Reads registry.library text previous styled reading) :
    Holds scope origin (registry.update scope reading.tokenizer)
      (some (first.getD registry.library)) (reading.nesting :: given) reading.tokenizer := by
  have run := (holds.reads_iff text previous styled reading).mp run
  obtain ⟨descends, knows, -⟩ := holds.history_getD.sound coherent
  obtain ⟨after, -⟩ := descends.coherent.knows_after_reads
    (fun nesting mem => knows nesting (taken nesting mem)) run
  have theme := congrArg Styler.theme after.styler
  refine ⟨find?_loaded_update _ _ _, fun library all => ?_, by rw [after.late rfl]; rfl⟩
  obtain rfl := all _ rfl
  rw [theme]
  exact holds.history_getD.line taken run

end Holds

/-- Whatever happens to a registry, the tokenizer of a grammar stays one with a history from what
was loaded. -/
theorem Later.exists_holds {scope : String} {origin : Tokenizer engine}
    {start registry : Registry engine} {first : Option Library} {given : List Nesting}
    (later : Later scope start registry first given)
    (there : start.loaded.find? scope = some origin) (new : origin.injections = none)
    (coherent : origin.Coherent) :
    ∃ tokenizer, Holds scope origin registry first given tokenizer := by
  induction later with
  | now => exact ⟨origin, there, fun library _ => .now, by rw [new]; rfl⟩
  | changed change _ ih =>
    obtain ⟨tokenizer, holds⟩ := ih
    exact ⟨tokenizer, holds.of_loaded (by rw [apply_eq])⟩
  | optioned _ _ _ ih =>
    obtain ⟨tokenizer, holds⟩ := ih
    exact ⟨tokenizer, holds.of_loaded rfl⟩
  | themed theme _ ih =>
    obtain ⟨tokenizer, holds⟩ := ih
    exact ⟨_, holds.themed theme⟩
  | loaded _ run ih =>
    obtain ⟨tokenizer, holds⟩ := ih
    have kept := find?_loaded_of_load holds.loaded run
    exact ⟨tokenizer, holds.of_loaded (kept.trans holds.loaded.symm)⟩
  | elsewhere other _ apart ih =>
    obtain ⟨tokenizer, holds⟩ := ih
    exact ⟨tokenizer, holds.of_loaded (find?_loaded_update_of_ne _ apart other)⟩
  | restyled theme _ found ih =>
    obtain ⟨tokenizer, holds⟩ := ih
    obtain rfl := holds.eq_of_find? found
    exact ⟨_, holds.restyled theme⟩
  | started _ found ih =>
    obtain ⟨tokenizer, holds⟩ := ih
    obtain rfl := holds.eq_of_find? found
    exact ⟨_, holds.started⟩
  | styled name _ found ih =>
    obtain ⟨tokenizer, holds⟩ := ih
    obtain rfl := holds.eq_of_find? found
    exact ⟨_, holds.styled name⟩
  | collected _ found ih =>
    obtain ⟨tokenizer, holds⟩ := ih
    obtain rfl := holds.eq_of_find? found
    exact ⟨_, holds.collected⟩
  | line _ found taken run ih =>
    obtain ⟨tokenizer, holds⟩ := ih
    obtain rfl := holds.eq_of_find? found
    exact ⟨_, holds.line coherent taken run⟩

/-! ## What a grammar reads -/

/-- A tokenizer is new when its grammar is loaded for the first time. -/
theorem exists_ofGrammar_of_load {registry after : Registry engine} {scope : String}
    {origin : Tokenizer engine} (fresh : registry.loaded.find? scope = none)
    (run : registry.load scope = .ok (origin, after)) :
    ∃ grammar, registry.library.find? scope = some grammar ∧
      Tokenizer.ofGrammar engine grammar registry.library
        ((registry.languages.find? scope).getD {}) registry.theme = .ok origin ∧
      after.loaded.find? scope = some origin := by
  rcases cases_of_load run with ⟨there, -⟩ | ⟨-, rfl, grammar, found, compiled⟩
  · cases fresh.symm.trans there
  · exact ⟨grammar, found, compiled, find?_loaded_update _ _ _⟩

/-- Two tokenizers, each in its registry, that read lines alike. -/
structure ReadLinesAlike (first second : Registry engine) (tokenizer other : Tokenizer engine)
    (given given' : List Nesting) : Prop where
  initial : tokenizer.initial = other.initial
  line (text : String) (previous : Option Nesting) (styled : Bool)
    (reading : LineReading engine) : (∀ nesting ∈ previous, nesting ∈ given ∧ nesting ∈ given') →
    tokenizer.Reads first.library text previous styled reading →
    ∃ answer, other.Reads second.library text previous styled answer ∧
      answer.tokens = reading.tokens ∧ answer.styledTokens = reading.styledTokens ∧
      answer.nesting = reading.nesting

/-- What a loaded grammar reads depends on the library and the languages from which it was loaded,
on the library from which its injections were collected, and on the present theme. -/
theorem loaded_reads_alike {scope : String} {first second start start' : Registry engine}
    {origin origin' : Tokenizer engine} (fresh : first.loaded.find? scope = none)
    (fresh' : second.loaded.find? scope = none) (library : first.library = second.library)
    (languages : first.languages.find? scope = second.languages.find? scope)
    (load : first.load scope = .ok (origin, start))
    (load' : second.load scope = .ok (origin', start')) {now now' : Registry engine}
    {settled settled' : Option Library} {given given' : List Nesting}
    (later : Later scope start now settled given)
    (later' : Later scope start' now' settled' given')
    (same : settled.getD now.library = settled'.getD now'.library) :
    ∃ tokenizer tokenizer', now.loaded.find? scope = some tokenizer ∧
      now'.loaded.find? scope = some tokenizer' ∧
      (tokenizer.styler.theme = tokenizer'.styler.theme →
        ReadLinesAlike now now' tokenizer tokenizer' given given') := by
  obtain ⟨grammar, found, compiled, there⟩ := exists_ofGrammar_of_load fresh load
  obtain ⟨grammar', found', compiled', there'⟩ := exists_ofGrammar_of_load fresh' load'
  -- The two origins are the same but for the theme.
  rw [← library] at found' compiled'
  rw [← languages] at compiled'
  obtain rfl : grammar = grammar' := Option.some.inj (found.symm.trans found')
  obtain rfl : origin' = origin.withTheme second.theme :=
    Except.ok.inj (compiled'.symm.trans (Tokenizer.ofGrammar_withTheme compiled second.theme))
  have coherent := Tokenizer.coherent_ofGrammar compiled
  have new := Tokenizer.injections_ofGrammar compiled
  obtain ⟨tokenizer, holds⟩ := later.exists_holds there new coherent
  obtain ⟨tokenizer', holds'⟩ := later'.exists_holds there' new (coherent.withTheme second.theme)
  refine ⟨tokenizer, tokenizer', holds.loaded, holds'.loaded, fun theme => ?_⟩
  have history := holds.history_getD
  have history' := holds'.history_getD.of_withTheme
  rw [← same, ← theme] at history'
  constructor
  · obtain ⟨left, -⟩ := history.sound coherent
    obtain ⟨right, -⟩ := history'.sound coherent
    have coherent := coherent.withTheme tokenizer.styler.theme
    have resumed := left.resumed_eq coherent (rfl : (none : Option Nesting).map _ = none)
    have resumed' := right.resumed_eq coherent (rfl : (none : Option Nesting).map _ = none)
    exact resumed.trans resumed'.symm
  · intro text previous styled reading taken run
    have run := (holds.reads_iff text previous styled reading).mp run
    have alike := history.readsAlike history' coherent taken text styled
    obtain ⟨answer, answered⟩ := alike.answers.mp ⟨reading, run⟩
    refine ⟨answer, (holds'.reads_iff text previous styled answer).mpr (same ▸ answered), ?_⟩
    exact ⟨(alike.tokens run answered).symm, (alike.styledTokens run answered).symm,
      (alike.nesting run answered).symm⟩

/-- A grammar without patterns, and one with a letter that may be injected into it. -/
def letters : List Change :=
  [.add { scopeName := "T" },
    .add { letterA [] with patterns := [{ name := some "letter", matchPattern := some "a" }] }]

/-- A registry with these grammars, and a tokenizer of the first one. -/
structure LoadedLetters (registry start : Registry Engine.literal)
    (origin : Tokenizer Engine.literal) : Prop where
  registry_eq :
    registry = ({ theme := ⟨none, {}, {}, {}⟩ } : Registry Engine.literal).applyAll letters
  fresh : registry.loaded.find? "T" = none
  load : registry.load "T" = .ok (origin, start)
  there : start.loaded.find? "T" = some origin

theorem exists_loadedLetters {α : Type}
    (ask : Tokenizer Engine.literal → Registry Engine.literal → Option α)
    (answers : ((({ theme := ⟨none, {}, {}, {}⟩ } : Registry Engine.literal).applyAll letters).load
      "T").toOption.bind (fun (origin, start) => ask origin start) |>.isSome) :
    ∃ registry start origin answer, LoadedLetters registry start origin ∧
      ask origin start = some answer := by
  have fresh : (({ theme := ⟨none, {}, {}, {}⟩ } : Registry Engine.literal).applyAll
      letters).loaded.find? "T" = none := by
    rw [applyAll_eq]
    rfl
  cases run : (({ theme := ⟨none, {}, {}, {}⟩ } : Registry Engine.literal).applyAll letters).load
    "T" with
  | error error =>
    rw [run] at answers
    cases answers
  | ok made =>
    rw [run] at answers
    obtain ⟨answer, asked⟩ := Option.isSome_iff_exists.mp answers
    obtain ⟨_, -, -, there⟩ := exists_ofGrammar_of_load fresh run
    exact ⟨_, made.2, made.1, answer, ⟨rfl, fresh, run, there⟩, asked⟩

/-- Once a line was read, an injection that is added does not show. -/
theorem loaded_reads_alike_letters : ∃ (registry start now : Registry Engine.literal)
    (origin tokenizer : Tokenizer Engine.literal) (nesting : Nesting),
    LoadedLetters registry start origin ∧
    Later "T" start now (some start.library) [nesting] ∧
    Later "T" start (now.inject "T" "A") (some start.library) [nesting] ∧
    now.library.injectorsOf "T" = [] ∧ (now.inject "T" "A").library.injectorsOf "T" = ["A"] ∧
    now.loaded.find? "T" = some tokenizer ∧
    ReadLinesAlike now (now.inject "T" "A") tokenizer tokenizer [nesting] [nesting] := by
  obtain ⟨registry, start, origin, reading, given, asked⟩ :=
    exists_loadedLetters (fun origin start => do
      let reading ← origin.readLine start.library "a" none false
      if start.library.injectorsOf "T" = [] ∧
        (start.inject "T" "A").library.injectorsOf "T" = ["A"] then some reading else none)
      (by decide +kernel)
  simp only [bind, Option.bind_eq_some_iff, Option.ite_none_right_eq_some] at asked
  obtain ⟨_, run, ⟨none, one⟩, asked⟩ := asked
  cases asked
  have later : Later "T" start (start.update "T" reading.tokenizer) (some start.library)
      [reading.nesting] :=
    .line .now given.there (by simp) (Tokenizer.reads_of_readLine run)
  have injected := later.changed (.inject "T" "A")
  obtain ⟨tokenizer, tokenizer', found, found', alike⟩ :=
    loaded_reads_alike given.fresh given.fresh rfl rfl given.load given.load later injected rfl
  obtain rfl : tokenizer = tokenizer' := Option.some.inj (found.symm.trans found')
  exact ⟨registry, start, _, origin, tokenizer, reading.nesting, given, later, injected, none, one,
    found, alike rfl⟩

/-- An injection that is added before any line was read shows in the first one. -/
theorem injection_shows_in_first_line : ∃ (registry start : Registry Engine.literal)
    (origin : Tokenizer Engine.literal) (reading answer : LineReading Engine.literal),
    LoadedLetters registry start origin ∧
    Later "T" start start none [] ∧ Later "T" start (start.inject "T" "A") none [] ∧
    (start.inject "T" "A").loaded.find? "T" = some origin ∧
    (start.inject "T" "A").theme = start.theme ∧
    origin.Reads start.library "a" none false reading ∧
    origin.Reads (start.inject "T" "A").library "a" none false answer ∧
    reading.tokens ≠ answer.tokens := by
  obtain ⟨registry, start, origin, ⟨reading, answer⟩, given, asked⟩ :=
    exists_loadedLetters (fun origin start => do
      let reading ← origin.readLine start.library "a" none false
      let answer ← origin.readLine (start.inject "T" "A").library "a" none false
      if reading.tokens ≠ answer.tokens then some (reading, answer) else none) (by decide +kernel)
  simp only [bind, Option.bind_eq_some_iff, Option.ite_none_right_eq_some] at asked
  obtain ⟨_, run, _, run', differ, asked⟩ := asked
  cases asked
  exact ⟨registry, start, origin, _, _, given, .now, .changed (.inject "T" "A") .now, given.there,
    rfl, Tokenizer.reads_of_readLine run, Tokenizer.reads_of_readLine run', differ⟩

end Registry

end ScopeTokenizer
