import ScopeTokenizer.Proofs.Grammar.Changes
import ScopeTokenizer.Proofs.Grammar.Definitions
import ScopeTokenizer.Proofs.Tokenizer.Moments

/-!
# The order of injections

Injections are collected once, each grammar's by the parts of its selectors: first those of the
grammar itself, then those of the grammars that are injected into it. Then they are sorted by
priority. Those of one priority stay in the order in which they were found. What counts is the
library at the time when they are collected.
-/

namespace ScopeTokenizer

open Grammar Pattern Style Text

variable {engine : Engine}

namespace Tokenizer.Collection

/-! ## What is contributed -/

/-- What a rule with a selector contributes to the injections, and what is compiled after it:
nothing if the selector or the rule is refused, and otherwise an injection of the rule for each part
of the selector. -/
inductive OfSelector (library : Library) (grammar : LinkedGrammar) (selector : String)
    (node : Node) (before : Compilation) : List Injection → Compilation → Prop where
  | unreadable {fault : Selector.Fault} :
      Selector.ofText selector = .error fault →
      OfSelector library grammar selector node before [] before
  | empty :
      Selector.ofText selector = .ok [] → OfSelector library grammar selector node before [] before
  | broken {parts : List Selector.Part} {after : Compilation} {error : GrammarError} :
      Selector.ofText selector = .ok parts → parts ≠ [] →
      before.compileRule library grammar.surroundings node = (.error error, after) →
      OfSelector library grammar selector node before [] after
  | parts {parts : List Selector.Part} {after : Compilation} {rule : RuleId} :
      Selector.ofText selector = .ok parts → parts ≠ [] →
      before.compileRule library grammar.surroundings node = (.ok rule, after) →
      OfSelector library grammar selector node before
        (parts.map fun part => ⟨part.matcher, part.priority, rule, grammar.scopeName⟩) after

/-- What a grammar contributes that asks to be injected: nothing if there is no such grammar, or if
it does not say where. -/
inductive OfInjector (library : Library) (injector : String) (before : Compilation) :
    List Injection → Compilation → Prop where
  | missing {after : Compilation} {answer : Except GrammarError (Option LinkedGrammar)} :
      before.run library (Compile.grammar? injector before.host.base?) = (answer, after) →
      (∀ grammar, answer ≠ .ok (some grammar)) → OfInjector library injector before [] after
  | nowhere {after : Compilation} {grammar : LinkedGrammar} :
      before.run library (Compile.grammar? injector before.host.base?) =
        (.ok (some grammar), after) →
      grammar.injectionSelector = none ∨ grammar.self? = none →
      OfInjector library injector before [] after
  | selector {middle after : Compilation} {grammar : LinkedGrammar} {selector : String}
      {node : Node} {group : List Injection} :
      before.run library (Compile.grammar? injector before.host.base?) =
        (.ok (some grammar), middle) →
      grammar.injectionSelector = some selector → grammar.self? = some node →
      OfSelector library grammar selector node middle group after →
      OfInjector library injector before group after

/-- The contributions of a list, one after the other. Each is made with all that was compiled for
those before it. -/
inductive InTurn {α : Type} (Contributes : α → Compilation → List Injection → Compilation → Prop) :
    List α → Compilation → List Injection → Compilation → Prop where
  | nil {compilation : Compilation} : InTurn Contributes [] compilation [] compilation
  | cons {a : α} {list : List α} {before middle after : Compilation}
      {group groups : List Injection} :
      Contributes a before group middle → InTurn Contributes list middle groups after →
      InTurn Contributes (a :: list) before (group ++ groups) after

/-- The injections that are collected from a library for the host of a compilation. -/
def Collects (library : Library) (compilation : Compilation) (injections : List Injection) : Prop :=
  ∃ own others middle after,
    InTurn (fun entry => OfSelector library compilation.host entry.1 entry.2)
      compilation.host.injections compilation own middle ∧
    InTurn (OfInjector library) (library.injectorsOf compilation.host.scopeName) middle others
      after ∧
    injections = (own ++ others).mergeSort fun first second =>
      first.priority.rank ≤ second.priority.rank

/-- Injections were collected in order: those of the host in the order of their selectors, and the
grammars that are injected in the order in which they have been registered first. -/
structure InOrder (library : Library) (compilation : Compilation) (injections : List Injection) :
    Prop where
  selectors : Keyed.Increasing compilation.host.injections
  registered : ∀ changes, library = ({} : Library).applyAll changes →
    library.injectorsOf compilation.host.scopeName =
      (Change.askers changes compilation.host.scopeName).eraseDups
  collects : Collects library compilation injections

variable {library : Library} {compilation : Compilation} {injections : List Injection}

theorem Collects.pairwise (collects : Collects library compilation injections) :
    injections.Pairwise fun first second => first.priority.rank ≤ second.priority.rank := by
  obtain ⟨own, others, middle, after, -, -, rfl⟩ := collects
  have trans (first second third : Injection) :
      decide (first.priority.rank ≤ second.priority.rank) →
        decide (second.priority.rank ≤ third.priority.rank) →
        decide (first.priority.rank ≤ third.priority.rank) := by
    simp only [decide_eq_true_eq]
    exact Int.le_trans
  have total (first second : Injection) : (decide (first.priority.rank ≤ second.priority.rank) ||
      decide (second.priority.rank ≤ first.priority.rank)) = true := by
    simpa using Int.le_total _ _
  simpa using List.pairwise_mergeSort trans total (own ++ others)

/-! ## Collecting -/

theorem exists_ofSelector_add (collection : Collection) (library : Library)
    (grammar : LinkedGrammar) (selector : String) (node : Node) :
    ∃ group, OfSelector library grammar selector node collection.compilation group
        (collection.add library grammar selector node).compilation ∧
      (collection.add library grammar selector node).injections =
        collection.injections ++ group := by
  unfold add
  split
  · next fault unreadable => exact ⟨[], .unreadable unreadable, (List.append_nil _).symm⟩
  · next empty => exact ⟨[], .empty empty, (List.append_nil _).symm⟩
  · next parts some read =>
    split
    · next error after broken => exact ⟨[], .broken read some broken, (List.append_nil _).symm⟩
    · next rule after compiled => exact ⟨_, .parts read some compiled, rfl⟩

theorem exists_ofInjector_addInjector (collection : Collection) (library : Library)
    (injector : String) :
    ∃ group, OfInjector library injector collection.compilation group
        (collection.addInjector library injector).compilation ∧
      (collection.addInjector library injector).injections = collection.injections ++ group := by
  simp only [addInjector]
  split
  · next grammar after found =>
    split
    · next selector node asks is =>
      obtain ⟨group, given, injections⟩ := exists_ofSelector_add
        { collection with compilation := after } library grammar selector node
      exact ⟨group, .selector found asks is given, injections⟩
    · next silent =>
      refine ⟨[], .nowhere found ?_, (List.append_nil _).symm⟩
      cases asks : grammar.injectionSelector with
      | none => exact .inl rfl
      | some selector =>
        cases is : grammar.self? with
        | none => exact .inr rfl
        | some node => exact absurd is (silent selector node asks)
  · next answer after missing asked =>
    exact ⟨[], .missing asked missing, (List.append_nil _).symm⟩

/-- Adding one after the other puts all contributions in this order. -/
theorem exists_inTurn_foldl {α : Type}
    {Contributes : α → Compilation → List Injection → Compilation → Prop}
    {add : Collection → α → Collection}
    (adds : ∀ collection a, ∃ group,
      Contributes a collection.compilation group (add collection a).compilation ∧
      (add collection a).injections = collection.injections ++ group)
    (list : List α) (collection : Collection) :
    ∃ groups,
      InTurn Contributes list collection.compilation groups
        (list.foldl add collection).compilation ∧
      (list.foldl add collection).injections = collection.injections ++ groups := by
  induction list generalizing collection with
  | nil => exact ⟨[], .nil, (List.append_nil _).symm⟩
  | cons a list ih =>
    obtain ⟨group, contributes, added⟩ := adds collection a
    obtain ⟨groups, rest, whole⟩ := ih (add collection a)
    refine ⟨group ++ groups, .cons contributes rest, ?_⟩
    rw [List.foldl_cons, whole, added, List.append_assoc]

theorem collects_ofCompilation (compilation : Compilation) (library : Library) :
    Collects library compilation (ofCompilation compilation library).sorted := by
  obtain ⟨own, owns, first⟩ := exists_inTurn_foldl
    (fun collection entry =>
      exists_ofSelector_add collection library compilation.host entry.1 entry.2)
    compilation.host.injections { compilation }
  obtain ⟨others, given, whole⟩ := exists_inTurn_foldl
    (fun collection injector => exists_ofInjector_addInjector collection library injector)
    (library.injectorsOf compilation.host.scopeName)
    (compilation.host.injections.foldl
      (fun collection entry => collection.add library compilation.host entry.1 entry.2)
      { compilation })
  refine ⟨own, others, _, _, owns, given, ?_⟩
  rw [first, List.nil_append] at whole
  simp only [sorted, ofCompilation]
  rw [whole]

end Tokenizer.Collection

/-! ## When injections are collected -/

namespace Tokenizer

/-- What can become of a tokenizer while the library changes that it refers to. The library is the
present one, and `heard` is the one from which the injections were collected, if they were. -/
inductive Lifetime (origin : Tokenizer engine) :
    Library → Option Library → Tokenizer engine → Prop where
  | compiled (library : Library) : Lifetime origin library none origin
  | changed {library : Library} {heard : Option Library} {tokenizer : Tokenizer engine}
      (next : Library) :
      Lifetime origin library heard tokenizer → Lifetime origin next heard tokenizer
  | collected {library : Library} {heard : Option Library} {tokenizer : Tokenizer engine} :
      Lifetime origin library heard tokenizer →
      Lifetime origin library (some (heard.getD library)) (tokenizer.collected library).2.1
  | asked {library : Library} {heard : Option Library} {tokenizer other : Tokenizer engine} :
      Lifetime origin library heard tokenizer → tokenizer.Asked library other →
      other.injections = tokenizer.injections → Lifetime origin library heard other
  | restyled {library : Library} {heard : Option Library} {tokenizer : Tokenizer engine}
      (theme : Theme) :
      Lifetime origin library heard tokenizer →
      Lifetime origin library heard (tokenizer.withTheme theme)

namespace Lifetime

variable {origin tokenizer : Tokenizer engine} {library : Library} {heard : Option Library}

theorem moment (lifetime : Lifetime origin library heard tokenizer) (first : Moment origin) :
    Moment tokenizer := by
  induction lifetime with
  | compiled => exact first
  | changed _ _ ih => exact ih
  | collected _ ih => exact ih.asked _ .collected
  | asked _ asked _ ih => exact ih.asked _ asked
  | restyled theme _ ih => exact ih.restyled theme

/-- All that collecting makes is what it would have made at once, from the library from which it was
done. -/
structure Kept (origin tokenizer : Tokenizer engine) (heard : Option Library) : Prop where
  injections : tokenizer.injections =
    heard.map fun library => (Collection.ofCompilation origin.compilation library).sorted
  compilation : tokenizer.compilation = heard.elim origin.compilation fun library =>
    (Collection.ofCompilation origin.compilation library).compilation

theorem Kept.collected (kept : Kept origin tokenizer heard) (library : Library) :
    (tokenizer.collected library).1 =
        (Collection.ofCompilation origin.compilation (heard.getD library)).sorted ∧
      Kept origin (tokenizer.collected library).2.1 (some (heard.getD library)) := by
  cases heard with
  | some heard =>
    rw [collected_of_injections library kept.injections]
    exact ⟨rfl, kept⟩
  | none =>
    have compilation : tokenizer.compilation = origin.compilation := kept.compilation
    have injections : tokenizer.injections = none := kept.injections
    simp only [Tokenizer.collected, injections, compilation]
    exact ⟨rfl, rfl, rfl⟩

/-- At any time, nothing is collected but from the library from which that was done first. -/
theorem kept (lifetime : Lifetime origin library heard tokenizer) (first : Moment origin)
    (fresh : origin.injections = none) : Kept origin tokenizer heard := by
  induction lifetime with
  | compiled => exact ⟨fresh, rfl⟩
  | changed _ _ ih => exact ih
  | collected _ ih => exact (ih.collected _).2
  | @asked library heard tokenizer other lifetime asked same ih =>
    obtain ⟨-, rfl | rules⟩ := asked.sound (lifetime.moment first).coherent
    · cases heard with
      | some heard =>
        rw [collected_of_injections library ih.injections]
        exact ih
      | none =>
        have kept := (ih.collected library).2.injections
        rw [same, ih.injections] at kept
        cases kept
    · exact ⟨rules.injections.trans ih.injections, rules.compilation.trans ih.compilation⟩
  | restyled theme _ ih => exact ⟨ih.injections, ih.compilation⟩

/-- The injections of a grammar that was compiled are in order at any time. -/
theorem inOrder_collected {grammar : GrammarDef} {first : Library} {languages : Languages}
    {theme : Theme} (compiled : ofGrammar engine grammar first languages theme = .ok origin)
    (sorted : grammar.Sorted) (lifetime : Lifetime origin library heard tokenizer) :
    Collection.InOrder (heard.getD library) origin.compilation (tokenizer.collected library).1 := by
  have moment : Moment origin := .compiled compiled
  obtain ⟨-, root, compilation, run, rfl⟩ := ofGrammar_eq_ok_iff.mp compiled
  obtain ⟨-, host, -⟩ := Compilation.compileRoot_spec run
  rw [((lifetime.kept moment rfl).collected library).1]
  refine ⟨?_, ?_, Collection.collects_ofCompilation _ _⟩
  · rw [host]
    exact sorted.increasing_injections none
  · intro changes is
    rw [is, Library.injectorsOf_applyAll]

end Lifetime

end Tokenizer

/-- Whatever a tokenizer has become, with whatever libraries, is in its lifetime. -/
theorem Moment.exists_lifetime {tokenizer : Tokenizer engine} (moment : Moment tokenizer)
    (library : Library) :
    ∃ (origin : Tokenizer engine) (heard : Option Library),
      (∃ grammar first languages theme,
        Tokenizer.ofGrammar engine grammar first languages theme = .ok origin) ∧
      origin.Lifetime library heard tokenizer := by
  induction moment generalizing library with
  | @compiled tokenizer grammar first languages theme run =>
    exact ⟨tokenizer, none, ⟨grammar, first, languages, theme, run⟩, .compiled library⟩
  | @asked tokenizer other asking moment asked ih =>
    obtain ⟨origin, heard, compiled, lifetime⟩ := ih asking
    obtain ⟨-, rfl | rules⟩ := asked.sound moment.coherent
    · exact ⟨origin, _, compiled, lifetime.collected.changed library⟩
    · exact ⟨origin, heard, compiled, (lifetime.asked asked rules.injections).changed library⟩
  | restyled theme _ ih =>
    obtain ⟨origin, heard, compiled, lifetime⟩ := ih library
    exact ⟨origin, heard, compiled, lifetime.restyled theme⟩

end ScopeTokenizer
