import ScopeTokenizer.Proofs.Pattern.Literal
import ScopeTokenizer.Proofs.Tokenizer.Moments

/-!
# The nestings of a grammar

Whatever lines were read, and under whatever themes, a nesting that a tokenizer gives stands on the
region of the grammar itself. Each region above that was opened by a rule for regions, in scopes
inside those of the region around it. So all text lies in the scope of the grammar.
-/

namespace ScopeTokenizer

open Grammar Pattern Style

variable {engine : Engine}

/-! ## Scopes of tokens -/

namespace LineTokens

variable {tokens : LineTokens} {scopes : ScopePath} {P : List String → Prop}

/-- A property of the scopes of all tokens with names. -/
def LiesIn (P : List String → Prop) (tokens : LineTokens) : Prop :=
  ∀ token ∈ tokens.named.toList, P token.scopes

theorem LiesIn.add (lie : tokens.LiesIn P) (inside : P scopes.names) (stop : Nat) :
    (tokens.add scopes stop).LiesIn P := by
  simp only [LineTokens.add]
  split
  · exact lie
  · split
    · exact lie
    · intro token mem
      rw [Array.toList_push] at mem
      rcases List.mem_append.mp mem with mem | mem
      · exact lie token mem
      · obtain rfl := List.mem_singleton.mp mem
        exact inside

theorem mem_of_mem_dropLineFeed {α : Type} {start : α → Nat} {length : Nat} {list : List α} {a : α}
    (mem : a ∈ dropLineFeed start length list) : a ∈ list := by
  simp only [dropLineFeed] at mem
  split at mem
  · split at mem
    · exact List.mem_of_mem_dropLast mem
    · exact mem
  · exact mem

/-- Cutting the last token shorter leaves the scopes as they are. -/
theorem exists_of_mem_shorten {length : Nat} {list : List Token} {token : Token}
    (mem : token ∈ shorten length list) : ∃ whole ∈ list, whole.scopes = token.scopes := by
  simp only [shorten] at mem
  split at mem
  · next last is =>
    split at mem
    · rcases List.mem_append.mp mem with mem | mem
      · exact ⟨token, List.mem_of_mem_dropLast mem, rfl⟩
      · obtain rfl := List.mem_singleton.mp mem
        exact ⟨last, List.mem_of_getLast? is, rfl⟩
    · exact ⟨token, mem, rfl⟩
  · exact ⟨token, mem, rfl⟩

/-- The tokens of a line lie in scopes of tokens that were cut off, or else in the scopes given. -/
theorem LiesIn.of_mem_tokens (lie : tokens.LiesIn P) (inside : P scopes.names) {length : Nat}
    {token : Token} (mem : token ∈ tokens.tokens scopes length) : P token.scopes := by
  simp only [LineTokens.tokens] at mem
  obtain ⟨whole, mem, same⟩ := exists_of_mem_shorten mem
  rw [← same]
  split at mem
  · obtain rfl := List.mem_singleton.mp mem
    exact inside
  · exact lie whole (mem_of_mem_dropLineFeed mem)

end LineTokens

namespace Tokenizer

/-! ## Well-formed nestings -/

/-- The frame of the grammar itself, which is in no other scope than that of the grammar. -/
structure IsGround (tokenizer : Tokenizer engine) (frame : Frame) : Prop where
  depth : frame.depth = 1
  rule : frame.rule = tokenizer.root
  pattern : frame.pattern = none
  names : frame.nameScopes.names = [tokenizer.scopeName]
  content : frame.contentScopes = frame.nameScopes

/-- A nesting that stands on the region of the grammar, with regions above it that rules have
opened one inside the other. -/
inductive WellFormed (tokenizer : Tokenizer engine) : Nesting → Prop where
  | root {frame : Frame} : tokenizer.IsGround frame → WellFormed tokenizer (.root frame)
  | above {outer : Nesting} {frame : Frame} : WellFormed tokenizer outer →
      frame.OpenedIn tokenizer.compilation.table outer.top →
      WellFormed tokenizer (.above outer frame)

/-- The scopes lie in that of the grammar. -/
def Covers (tokenizer : Tokenizer engine) (names : List String) : Prop :=
  [tokenizer.scopeName] <+: names

variable {tokenizer other : Tokenizer engine} {library : Library} {stage : Bool}
  {nesting next : Nesting} {frame : Frame}

/-- To close the region of the grammar would change nothing. -/
theorem IsGround.closing (ground : tokenizer.IsGround frame) :
    { frame with contentScopes := frame.nameScopes } = frame := by
  cases frame
  simp only [Frame.mk.injEq, true_and, and_true]
  exact ground.content.symm

namespace WellFormed

/-- A step keeps a nesting well-formed, and leaves the region of the grammar as it is. -/
theorem turn (wellFormed : tokenizer.WellFormed nesting)
    (turn : nesting.Turn tokenizer.compilation.table next) :
    tokenizer.WellFormed next ∧ next.bottom = nesting.bottom := by
  cases turn with
  | opened opened => exact ⟨.above wellFormed opened, rfl⟩
  | closing =>
    cases wellFormed with
    | @root frame ground =>
      have same : (Nesting.root frame).withContentScopes (Nesting.root frame).top.nameScopes =
          .root frame := congrArg Nesting.root ground.closing
      rw [same]
      exact ⟨.root ground, rfl⟩
    | above outer opened =>
      exact ⟨.above outer { opened with contentScopes := List.prefix_refl _ }, rfl⟩
  | left =>
    cases wellFormed with
    | root ground => exact ⟨.root ground, rfl⟩
    | above outer _ => exact ⟨outer, rfl⟩

/-- So do any number of steps. -/
theorem turns (wellFormed : tokenizer.WellFormed nesting)
    (turns : nesting.Turns tokenizer.compilation.table next) :
    tokenizer.WellFormed next ∧ next.bottom = nesting.bottom := by
  induction turns with
  | refl => exact ⟨wellFormed, rfl⟩
  | tail _ last ih =>
    obtain ⟨between, bottom⟩ := ih
    obtain ⟨after, same⟩ := between.turn last
    exact ⟨after, same.trans bottom⟩

theorem reset (wellFormed : tokenizer.WellFormed nesting) : tokenizer.WellFormed nesting.reset := by
  induction wellFormed with
  | root ground =>
    exact .root ⟨ground.depth, ground.rule, ground.pattern, ground.names, ground.content⟩
  | @above outer frame _ opened ih =>
    have top : outer.reset.top = outer.top.reset := by cases outer <;> rfl
    refine .above ih ?_
    rw [top]
    exact ⟨opened.depth, opened.rule, opened.nameScopes, opened.contentScopes⟩

/-- A nesting stays well-formed for what becomes of the tokenizer. -/
theorem mono (wellFormed : tokenizer.WellFormed nesting)
    (grows : tokenizer.compilation.Grows other.compilation) (root : other.root = tokenizer.root) :
    other.WellFormed nesting := by
  induction wellFormed with
  | root ground =>
    have scopeName : other.scopeName = tokenizer.scopeName :=
      congrArg LinkedGrammar.scopeName grows.host
    refine .root { ground with rule := ground.rule.trans root.symm, names := ?_ }
    rw [scopeName]
    exact ground.names
  | above _ opened ih =>
    obtain ⟨rule, awaited, compiled, rest⟩ := opened.rule
    have kept := (grows.table.kept _ (RuleTable.le_size_of_rule? compiled)).trans compiled
    exact .above ih { opened with rule := ⟨rule, awaited, kept, rest⟩ }

/-- The innermost frame knows how many frames there are. -/
theorem depth_eq (wellFormed : tokenizer.WellFormed nesting) :
    nesting.depth = nesting.frames.length := by
  induction wellFormed with
  | root ground => exact ground.depth
  | @above outer frame _ opened ih =>
    calc
      frame.depth = outer.depth + 1 := opened.depth
      _ = outer.frames.length + 1 := by rw [ih]
      _ = (Nesting.above outer frame).frames.length := by
        rw [Nesting.frames_above, List.length_append, List.length_singleton]

/-- All text lies in the scope of the grammar. -/
theorem covers (wellFormed : tokenizer.WellFormed nesting) (mem : frame ∈ nesting.frames) :
    tokenizer.Covers frame.nameScopes.names ∧ tokenizer.Covers frame.contentScopes.names := by
  induction wellFormed generalizing frame with
  | root ground =>
    obtain rfl := List.mem_singleton.mp mem
    have names : tokenizer.Covers frame.nameScopes.names := by
      rw [ground.names]
      exact List.prefix_refl _
    exact ⟨names, by rwa [ground.content]⟩
  | @above outer inner _ opened ih =>
    rw [Nesting.frames_above] at mem
    rcases List.mem_append.mp mem with mem | mem
    · exact ih mem
    · obtain rfl := List.mem_singleton.mp mem
      obtain ⟨-, around⟩ := ih outer.top_mem_frames
      have names := around.trans opened.nameScopes
      exact ⟨names, names.trans opened.contentScopes⟩

theorem isGround_bottom (wellFormed : tokenizer.WellFormed nesting) :
    tokenizer.IsGround nesting.bottom := by
  induction wellFormed with
  | root ground => exact ground
  | above _ _ ih => exact ih

theorem known (wellFormed : tokenizer.WellFormed nesting) (coherent : tokenizer.Coherent)
    (mem : frame ∈ nesting.frames) : frame.rule ≤ tokenizer.compilation.table.size := by
  induction wellFormed generalizing frame with
  | root ground =>
    obtain rfl := List.mem_singleton.mp mem
    obtain ⟨rule, compiled, -⟩ := coherent.root
    rw [← ground.rule] at compiled
    exact RuleTable.le_size_of_rule? compiled
  | above _ opened ih =>
    rw [Nesting.frames_above] at mem
    rcases List.mem_append.mp mem with mem | mem
    · exact ih mem
    · obtain rfl := List.mem_singleton.mp mem
      obtain ⟨rule, -, compiled, -⟩ := opened.rule
      exact RuleTable.le_size_of_rule? compiled

theorem fits (wellFormed : tokenizer.WellFormed nesting) (coherent : tokenizer.Coherent) :
    tokenizer.Fits (fun path => tokenizer.Covers path.names) (fun _ => True) nesting where
  known := fun _ mem => wellFormed.known coherent mem
  inside := fun _ mem => wellFormed.covers mem
  root := wellFormed.isGround_bottom.rule
  whole := trivial
  content := wellFormed.isGround_bottom.content

end WellFormed

/-! ## Lines -/

namespace Coherent

variable (coherent : tokenizer.Coherent)

include coherent

theorem wellFormed_initial : tokenizer.WellFormed tokenizer.initial := by
  rw [coherent.initial_eq]
  exact .root ⟨rfl, rfl, rfl, ScopePath.names_root _ _, rfl⟩

theorem wellFormed_resumed {previous : Option Nesting}
    (given : ∀ nesting ∈ previous, tokenizer.WellFormed nesting) :
    tokenizer.WellFormed (tokenizer.resumed previous) := by
  cases previous with
  | none => exact coherent.wellFormed_initial
  | some nesting => exact (given nesting rfl).reset

variable {text : String} {previous : Option Nesting} {styled : Bool} {reading : LineReading engine}

/-- A line leads from a well-formed nesting to a well-formed one, and never leaves the region of
the grammar. -/
theorem wellFormed_after_reads (given : ∀ nesting ∈ previous, tokenizer.WellFormed nesting)
    (run : tokenizer.Reads library text previous styled reading) :
    Descends tokenizer library true reading.tokenizer ∧
      reading.tokenizer.WellFormed reading.nesting ∧
      reading.nesting.bottom = (tokenizer.resumed previous).bottom := by
  have begins := coherent.wellFormed_resumed given
  have knows (nesting : Nesting) (mem : nesting ∈ previous) : tokenizer.Knows nesting :=
    ((given nesting mem).fits coherent).weaken (fun _ _ => trivial) fun _ _ => trivial
  obtain ⟨descends, -⟩ := coherent.knows_after_reads knows run
  obtain ⟨steps, run⟩ := run
  obtain ⟨turns, -⟩ := (coherent.lasting_kin library).turns (coherent.descends library) run
  have rules : tokenizer.rules library = reading.tokenizer.compilation.table := by
    rw [descends.compilation_eq]
    rfl
  rw [rules] at turns
  exact ⟨descends, (begins.mono (descends.any coherent).grows descends.root).turns turns⟩

/-- The tokens of a line that begins in a well-formed nesting lie in the scope of the grammar. -/
theorem covers_tokens (given : ∀ nesting ∈ previous, tokenizer.WellFormed nesting)
    (run : tokenizer.Reads library text previous styled reading) :
    ∀ token ∈ reading.tokens, tokenizer.Covers token.scopes := by
  let upkeep : Upkeep engine tokenizer.styler :=
    { scopesUpkeep engine tokenizer.styler (fun path => tokenizer.Covers path.names)
        (fun _ => True) fun path scope inside => by
          rw [ScopePath.names_enter]
          exact List.IsPrefix.trans inside (List.prefix_append _ _) with
      Keeps := fun tokens _ => tokens.LiesIn tokenizer.Covers
      add := fun lie inside _ => lie.add inside _ }
  have starts : upkeep.Keeps { styled } { styled } := by
    intro token mem
    cases mem
  have begins := (coherent.wellFormed_resumed given).fits coherent
  obtain ⟨answer, -, same⟩ := (coherent.descends library).reads (coherent.descends library)
    coherent upkeep rfl begins styled starts trivial run
  obtain ⟨-, inside⟩ := same.fits.inside _ reading.nesting.top_mem_frames
  exact fun token mem => LineTokens.LiesIn.of_mem_tokens same.keeps inside mem

end Coherent

end Tokenizer

namespace Session

open Tokenizer

variable {tokenizer : Tokenizer engine} {known present : List Nesting}

theorem present_subset (session : Session tokenizer known present) : present ⊆ known := by
  induction session with
  | compiled => exact List.Subset.refl _
  | started _ ih => exact List.cons_subset_cons _ ih
  | line _ _ _ ih => exact List.subset_cons_of_subset _ ih
  | presentLine _ _ _ ih => exact List.cons_subset_cons _ ih
  | restyled => exact List.nil_subset _

/-- All nestings that a tokenizer has given are well-formed at any time. -/
theorem wellFormed (session : Session tokenizer known present) :
    ∀ nesting ∈ known, tokenizer.WellFormed nesting := by
  have line {tokenizer : Tokenizer engine} {known present : List Nesting} {library : Library}
      {text : String} {previous : Option Nesting} {styled : Bool} {reading : LineReading engine}
      (session : Session tokenizer known present)
      (all : ∀ nesting ∈ known, tokenizer.WellFormed nesting)
      (given : ∀ nesting ∈ previous, nesting ∈ known)
      (run : tokenizer.Reads library text previous styled reading) :
      ∀ nesting ∈ reading.nesting :: known, reading.tokenizer.WellFormed nesting := by
    obtain ⟨coherent, -, -⟩ := session.sound
    obtain ⟨descends, after, -⟩ :=
      coherent.wellFormed_after_reads (fun nesting mem => all nesting (given nesting mem)) run
    exact List.forall_mem_cons.mpr
      ⟨after, fun nesting mem =>
        (all nesting mem).mono (descends.any coherent).grows descends.root⟩
  induction session with
  | compiled => exact nofun
  | started session ih =>
    obtain ⟨coherent, -, -⟩ := session.sound
    exact List.forall_mem_cons.mpr ⟨coherent.wellFormed_initial, ih⟩
  | line session given run ih => exact line session ih given run
  | presentLine session given run ih =>
    exact line session ih (fun nesting mem => session.present_subset (given nesting mem)) run
  | restyled _ _ ih => exact fun nesting mem => (ih nesting mem).mono (.refl _) rfl

end Session

namespace Tokenizer

variable {tokenizer : Tokenizer engine} {known present : List Nesting}

/-- At any time, all nestings that a grammar has given are well-formed. A line never leaves the
region of the grammar, and all its tokens lie in the scope of the grammar. -/
theorem given_nestings_wellFormed (session : Session tokenizer known present) :
    (∀ nesting ∈ known,
      tokenizer.WellFormed nesting ∧ nesting.depth = nesting.frames.length) ∧
    ∀ (library : Library) (text : String) (previous : Option Nesting) (styled : Bool)
      (reading : LineReading engine), (∀ nesting ∈ previous, nesting ∈ known) →
      tokenizer.Reads library text previous styled reading →
      reading.tokenizer.WellFormed reading.nesting ∧
      reading.nesting.bottom = (tokenizer.resumed previous).bottom ∧
      ∀ token ∈ reading.tokens, [tokenizer.scopeName] <+: token.scopes := by
  obtain ⟨coherent, -, -⟩ := session.sound
  have wellFormed := session.wellFormed
  refine ⟨fun nesting mem => ⟨wellFormed nesting mem, (wellFormed nesting mem).depth_eq⟩, ?_⟩
  intro library text previous styled reading given run
  have all (nesting : Nesting) (mem : nesting ∈ previous) := wellFormed nesting (given nesting mem)
  obtain ⟨-, after, bottom⟩ := coherent.wellFormed_after_reads all run
  exact ⟨after, bottom, coherent.covers_tokens all run⟩

/-- A grammar of quotations inside of documents, whose last line repeats how they begin. -/
def quotations : GrammarDef where
  scopeName := "source"
  patterns := [{ includeName := some "#document" }]
  repository :=
    [("document",
      { name := some "document"
        contentName := some "body"
        beginPattern := some "<"
        endPattern := some "\\0>"
        patterns := [{ includeName := some "#quotation" }] }),
      ("quotation",
      { name := some "quotation"
        beginPattern := some ":"
        whilePattern := some ":" })]

theorem given_nestings_wellFormed_quotations :
    ∃ (tokenizer : Tokenizer Engine.literal) (nesting : Nesting)
      (reading : LineReading Engine.literal),
      Session tokenizer [nesting] [] ∧ nesting.depth = 3 ∧
      (tokenizer.WellFormed nesting ∧ nesting.depth = nesting.frames.length) ∧
      tokenizer.Reads {} "x" (some nesting) false reading ∧
      reading.nesting.depth = 2 ∧ reading.nesting.top.pattern.isSome = true ∧
      reading.tokenizer.WellFormed reading.nesting ∧
      reading.nesting.bottom = (tokenizer.resumed (some nesting)).bottom ∧
      ∀ token ∈ reading.tokens, [tokenizer.scopeName] <+: token.scopes := by
  let theme : Theme := ⟨none, {}, {}, {}⟩
  obtain ⟨tokenizer, ⟨first, second⟩, compiled, asked⟩ := exists_ofTexts quotations
    (fun tokenizer => do
      let first ← tokenizer.readLine {} "<:" none false
      let second ← (first.tokenizer.withTheme theme).readLine {} "x" (some first.nesting) false
      if first.nesting.depth = 3 ∧ second.nesting.depth = 2 ∧
          second.nesting.top.pattern.isSome = true then some (first, second)
      else none)
    (by decide +kernel)
  simp only [bind, Option.bind_eq_some_iff, Option.ite_none_right_eq_some] at asked
  obtain ⟨_, run₁, _, run₂, ⟨three, two, filled⟩, asked⟩ := asked
  cases asked
  have started : Session tokenizer [] [] := .compiled compiled
  have session := (started.presentLine (by simp) (reads_of_readLine run₁)).restyled theme
  have reads := reads_of_readLine run₂
  obtain ⟨all, lines⟩ := given_nestings_wellFormed session
  exact ⟨_, first.nesting, second, session, three, all _ List.mem_cons_self, reads, two, filled,
    lines _ _ _ _ _ (by simp) reads⟩

end Tokenizer

end ScopeTokenizer
