import ScopeTokenizer.Proofs.Tokenizer.Kinship

/-!
# Sessions

All that can happen to a tokenizer: lines are read with it, for tokens of either kind, each from
the start of a text or from a nesting that it has given before; its initial nesting is asked
for; and it gets another theme. What holds of tokenizers and nestings at any time is shown
here by induction on these events.
-/

namespace ScopeTokenizer

open Grammar Pattern Style

variable {engine : Engine}

namespace ScopePath

/-- The path is made by entering its scopes one by one, from those of the grammar on. -/
def MadeFrom (path : ScopePath) (styler : Styler) (root : ScopePath) : Prop :=
  path = root.enterEach styler path.names.tail

theorem MadeFrom.enter {path root : ScopePath} {styler : Styler}
    (made : path.MadeFrom styler root) (scope : String) :
    (path.enter styler scope).MadeFrom styler root := by
  have nonempty : path.names ≠ [] := by
    intro none
    have length := path.length_names
    rw [none] at length
    cases path with
    | root name metadata => cases length
    | push outer name metadata => cases length
  simp only [MadeFrom] at made ⊢
  rw [names_enter, List.tail_append_of_ne_nil nonempty, enterEach_concat, ← made]

theorem madeFrom_self {name : String} {metadata : Metadata} (styler : Styler) :
    (root name metadata).MadeFrom styler (root name metadata) := rfl

end ScopePath

namespace Tokenizer

/-- Scopes that have the metadata of the present theme. -/
def Styled (tokenizer : Tokenizer engine) (path : ScopePath) : Prop :=
  path.MadeFrom tokenizer.styler tokenizer.rootScopes

/-- A nesting of rules of a tokenizer. -/
abbrev Knows (tokenizer : Tokenizer engine) (nesting : Nesting) : Prop :=
  tokenizer.Fits (fun _ => True) (fun _ => True) nesting

/-- A nesting of rules of a tokenizer, in scopes that have the metadata of the present theme. -/
abbrev Styles (tokenizer : Tokenizer engine) (nesting : Nesting) : Prop :=
  tokenizer.Fits tokenizer.Styled (· = tokenizer.rootScopes) nesting

end Tokenizer

/-- What can happen to a tokenizer from the time when its grammar was compiled. `known` are the
nestings that it has given, and `present` are those that it gave under the theme that it has
now, for lines that began in such nestings. -/
inductive Session : Tokenizer engine → (known present : List Nesting) → Prop where
  | compiled {tokenizer : Tokenizer engine} {grammar : GrammarDef} {library : Library}
      {languages : Languages} {theme : Theme} :
      Tokenizer.ofGrammar engine grammar library languages theme = .ok tokenizer →
      Session tokenizer [] []
  | started {tokenizer : Tokenizer engine} {known present : List Nesting} :
      Session tokenizer known present →
      Session tokenizer (tokenizer.initial :: known) (tokenizer.initial :: present)
  | line {tokenizer : Tokenizer engine} {known present : List Nesting} {library : Library}
      {text : String} {previous : Option Nesting} {styled : Bool} {reading : LineReading engine} :
      Session tokenizer known present → (∀ nesting ∈ previous, nesting ∈ known) →
      tokenizer.Reads library text previous styled reading →
      Session reading.tokenizer (reading.nesting :: known) present
  | presentLine {tokenizer : Tokenizer engine} {known present : List Nesting} {library : Library}
      {text : String} {previous : Option Nesting} {styled : Bool} {reading : LineReading engine} :
      Session tokenizer known present → (∀ nesting ∈ previous, nesting ∈ present) →
      tokenizer.Reads library text previous styled reading →
      Session reading.tokenizer (reading.nesting :: known) (reading.nesting :: present)
  | restyled {tokenizer : Tokenizer engine} {known present : List Nesting} (theme : Theme) :
      Session tokenizer known present → Session (tokenizer.withTheme theme) known []

/-- What can happen to a tokenizer while its theme and the library stay the same. -/
inductive Later (library : Library) (origin : Tokenizer engine) (known : List Nesting) :
    Tokenizer engine → List Nesting → Prop where
  | now : Later library origin known origin known
  | started {tokenizer : Tokenizer engine} {nestings : List Nesting} :
      Later library origin known tokenizer nestings →
      Later library origin known tokenizer (tokenizer.initial :: nestings)
  | line {tokenizer : Tokenizer engine} {nestings : List Nesting} {text : String}
      {previous : Option Nesting} {styled : Bool} {reading : LineReading engine} :
      Later library origin known tokenizer nestings →
      (∀ nesting ∈ previous, nesting ∈ nestings) →
      tokenizer.Reads library text previous styled reading →
      Later library origin known reading.tokenizer (reading.nesting :: nestings)

namespace Tokenizer

variable {tokenizer : Tokenizer engine} {library : Library}

/-- Upkeep of a property of scopes alone. -/
def scopesUpkeep (engine : Engine) (styler : Styler) (Inside Whole : ScopePath → Prop)
    (enter : ∀ path scope, Inside path → Inside (path.enter styler scope)) :
    Upkeep engine styler where
  Stop _ := True
  Inside
  Whole
  Keeps _ _ := True
  stop_of_le := fun _ _ => trivial
  stop_of_found := fun _ _ => ⟨trivial, trivial, fun _ _ => ⟨trivial, trivial⟩⟩
  enter := fun scope => enter _ scope
  add := fun _ _ _ => trivial

/-- The nesting that a line begins in fits a tokenizer, if those that were given do. -/
theorem Coherent.fits_resumed (coherent : tokenizer.Coherent) {Inside Whole : ScopePath → Prop}
    (inside : Inside tokenizer.rootScopes) (whole : Whole tokenizer.rootScopes)
    {previous : Option Nesting} (fits : ∀ nesting ∈ previous, tokenizer.Fits Inside Whole nesting) :
    tokenizer.Fits Inside Whole (tokenizer.resumed previous) := by
  cases previous with
  | none => exact coherent.fits_initial inside whole
  | some nesting => exact (fits nesting rfl).reset

/-- After a line, a tokenizer is a descendant of the one before it, and the nesting that the line
leads to fits it as the one before the line did. -/
theorem Coherent.after_reads (coherent : tokenizer.Coherent) {Inside Whole : ScopePath → Prop}
    (enter : ∀ path scope, Inside path → Inside (path.enter tokenizer.styler scope))
    (inside : Inside tokenizer.rootScopes) (whole : Whole tokenizer.rootScopes) {text : String}
    {previous : Option Nesting} (fits : ∀ nesting ∈ previous, tokenizer.Fits Inside Whole nesting)
    {styled : Bool} {reading : LineReading engine}
    (run : tokenizer.Reads library text previous styled reading) :
    Descends tokenizer library true reading.tokenizer ∧
      reading.tokenizer.Fits Inside Whole reading.nesting := by
  have begins := coherent.fits_resumed inside whole fits
  obtain ⟨answer, -, same⟩ := (coherent.descends library).reads (coherent.descends library)
    coherent (scopesUpkeep engine tokenizer.styler Inside Whole enter) rfl begins styled trivial
    trivial run
  exact ⟨same.left, same.fits⟩

theorem Coherent.knows_after_reads (coherent : tokenizer.Coherent) {text : String}
    {previous : Option Nesting} (knows : ∀ nesting ∈ previous, tokenizer.Knows nesting)
    {styled : Bool} {reading : LineReading engine}
    (run : tokenizer.Reads library text previous styled reading) :
    Descends tokenizer library true reading.tokenizer ∧ reading.tokenizer.Knows reading.nesting :=
  coherent.after_reads (fun _ _ _ => trivial) trivial trivial knows run

theorem Descends.styles_iff {origin : Tokenizer engine} {stage : Bool} {nesting : Nesting}
    (descends : Descends origin library stage tokenizer) (coherent : origin.Coherent) :
    tokenizer.Styles nesting ↔ tokenizer.Fits origin.Styled (· = origin.rootScopes) nesting := by
  unfold Styles Styled
  rw [descends.rootScopes_eq coherent, descends.styler]

theorem Coherent.styles_after_reads (coherent : tokenizer.Coherent) {text : String}
    {previous : Option Nesting} (styles : ∀ nesting ∈ previous, tokenizer.Styles nesting)
    {styled : Bool} {reading : LineReading engine}
    (run : tokenizer.Reads library text previous styled reading) :
    reading.tokenizer.Styles reading.nesting := by
  obtain ⟨descends, fits⟩ := coherent.after_reads
    (fun path scope (made : tokenizer.Styled path) => made.enter scope)
    (ScopePath.madeFrom_self _) (by rfl) styles run
  exact (descends.styles_iff coherent).mpr fits

end Tokenizer

namespace Session

open Tokenizer

variable {tokenizer : Tokenizer engine} {known present : List Nesting}

/-- At any time a tokenizer is coherent, and the nestings that it has given fit it. -/
theorem sound (session : Session tokenizer known present) :
    tokenizer.Coherent ∧ (∀ nesting ∈ known, tokenizer.Knows nesting) ∧
      ∀ nesting ∈ present, tokenizer.Styles nesting := by
  induction session with
  | compiled run => exact ⟨coherent_ofGrammar run, nofun, nofun⟩
  | started _ ih =>
    obtain ⟨coherent, knows, styles⟩ := ih
    refine ⟨coherent, List.forall_mem_cons.mpr ⟨?_, knows⟩, List.forall_mem_cons.mpr ⟨?_, styles⟩⟩
    · exact coherent.fits_initial trivial trivial
    · exact coherent.fits_initial (ScopePath.madeFrom_self _) rfl
  | line _ given run ih =>
    obtain ⟨coherent, knows, styles⟩ := ih
    obtain ⟨descends, after⟩ :=
      coherent.knows_after_reads (fun nesting mem => knows nesting (given nesting mem)) run
    have grows := (descends.any coherent).grows
    refine ⟨descends.coherent, List.forall_mem_cons.mpr ⟨after, fun nesting mem => ?_⟩,
      fun nesting mem => ?_⟩
    · exact (knows nesting mem).mono grows descends.root
    · exact (descends.styles_iff coherent).mpr ((styles nesting mem).mono grows descends.root)
  | presentLine _ given run ih =>
    obtain ⟨coherent, knows, styles⟩ := ih
    have styled := coherent.styles_after_reads
      (fun nesting mem => styles nesting (given nesting mem)) run
    obtain ⟨descends, after⟩ := coherent.knows_after_reads (fun nesting mem =>
      (styles nesting (given nesting mem)).weaken (fun _ _ => trivial) fun _ _ => trivial) run
    have grows := (descends.any coherent).grows
    refine ⟨descends.coherent, List.forall_mem_cons.mpr ⟨after, fun nesting mem => ?_⟩,
      List.forall_mem_cons.mpr ⟨styled, fun nesting mem => ?_⟩⟩
    · exact (knows nesting mem).mono grows descends.root
    · exact (descends.styles_iff coherent).mpr ((styles nesting mem).mono grows descends.root)
  | restyled theme _ ih =>
    obtain ⟨coherent, knows, -⟩ := ih
    exact ⟨coherent.withTheme theme, fun nesting mem =>
      (knows nesting mem).mono (.refl _) rfl, nofun⟩

end Session

namespace Later

open Tokenizer

variable {library : Library} {origin tokenizer : Tokenizer engine}
  {known nestings : List Nesting}

/-- What comes later descends from the tokenizer, and knows the nestings. -/
theorem sound (later : Later library origin known tokenizer nestings)
    (coherent : origin.Coherent) (knows : ∀ nesting ∈ known, origin.Knows nesting) :
    Descends origin library false tokenizer ∧ ∀ nesting ∈ nestings, tokenizer.Knows nesting := by
  induction later with
  | now => exact ⟨coherent.descends library, knows⟩
  | started _ ih =>
    obtain ⟨descends, knows⟩ := ih
    refine ⟨descends, List.forall_mem_cons.mpr ⟨?_, knows⟩⟩
    exact descends.coherent.fits_initial trivial trivial
  | line _ given run ih =>
    obtain ⟨descends, knows⟩ := ih
    obtain ⟨after, fits⟩ := descends.coherent.knows_after_reads
      (fun nesting mem => knows nesting (given nesting mem)) run
    refine ⟨after.trans descends, List.forall_mem_cons.mpr ⟨fits, fun nesting mem => ?_⟩⟩
    exact (knows nesting mem).mono (after.any descends.coherent).grows after.root

end Later

end ScopeTokenizer
