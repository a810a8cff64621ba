import ScopeTokenizer.Proofs.Grammar.Flattening
import ScopeTokenizer.Proofs.Grammar.Ownership
import ScopeTokenizer.Proofs.Tokenizer.Moments

/-!
# What searches look for

At any moment, a tokenizer searches only for the end of a region and for rules that have a pattern,
whatever injections could not be compiled. Nor does it ever say that it has found anything else.
-/

namespace ScopeTokenizer

open Grammar Pattern Style

variable {engine : Engine}

/-! ## Targets -/

theorem Pattern.PatternSet.labels_ofList {α : Type} (patterns : List (α × String)) :
    (ofList patterns : PatternSet engine α × _).1.labels = patterns.map (·.1) := by
  simp only [ofList]
  split
  · rfl
  · split <;> rfl

namespace Grammar.RuleTable

/-- A search inside a rule may look for the end of its region, and for rules that have a pattern. -/
def seeks (table : RuleTable) : Target → Bool
  | .closing => true
  | .rule id => (table.rule? id).any fun rule => rule.leading?.isSome
  | .condition => false

variable {table before after : RuleTable} {id : RuleId}

theorem seeks_rule_iff : table.seeks (.rule id) = true ↔
    ∃ rule, table.rule? id = some rule ∧ rule.leading?.isSome = true := by
  simp [seeks, Option.any_eq_true]

theorem seeks_mono {target : Target} (seeks : before.seeks target = true)
    (grows : before.Grows after) : after.seeks target = true := by
  cases target with
  | closing => rfl
  | condition => exact seeks
  | rule id =>
    obtain ⟨rule, found, leading⟩ := seeks_rule_iff.mp seeks
    exact seeks_rule_iff.mpr ⟨rule, (grows.kept id (le_size_of_rule? found)).trans found, leading⟩

theorem leading?_of_role {source : Source} (role : table.role id = .pattern source) :
    (table.rule? id).bind Rule.leading? = some source := by
  cases found : table.rule? id with
  | none => simp [RuleTable.role, found] at role
  | some rule =>
    obtain ⟨number, name, kind⟩ := rule
    cases kind with
    | single | region | lines => simpa [RuleTable.role, found, Rule.leading?] using role
    | container | capture => simp [RuleTable.role, found] at role

/-- All rules that take part in a search have patterns, by which they do. -/
theorem leading?_of_mem_taking {entry : RuleId × Source} (mem : entry ∈ table.taking id) :
    (table.rule? entry.1).bind Rule.leading? = some entry.2 := by
  by_cases multiple : ∀ rule, table.rule? id = some rule → rule.isSingle = false
  · exact leading?_of_role ((mem_taking_iff multiple entry.2).mp mem).1
  · simp only [not_forall] at multiple
    obtain ⟨⟨number, name, kind⟩, found, single⟩ := multiple
    cases kind with
    | container | region | lines | capture => exact absurd rfl single
    | single matching =>
      simp only [taking, found] at mem
      obtain rfl := List.mem_singleton.mp mem
      rw [found]
      rfl

theorem seeks_of_mem_taking {entry : RuleId × Source} (mem : entry ∈ table.taking id) :
    table.seeks (.rule entry.1) = true := by
  obtain ⟨rule, found, leading⟩ := Option.bind_eq_some_iff.mp (leading?_of_mem_taking mem)
  exact seeks_rule_iff.mpr ⟨rule, found, Option.isSome_of_eq_some leading⟩

end Grammar.RuleTable

namespace Tokenizer

/-- Besides its end, the patterns of a search are those of the rules that take part in it. -/
theorem cases_of_mem_patternsOf {table : RuleTable} {rule : Rule} {filled : Option String}
    {anchors : Anchors} {entry : Target × String}
    (mem : entry ∈ patternsOf table rule filled anchors) :
    entry.1 = .closing ∨ ∃ taken ∈ table.taking rule.id,
      entry = (.rule taken.1, taken.2.resolveAnchors anchors) := by
  have inner (mem : entry ∈ innerPatterns table rule anchors) :
      ∃ taken ∈ table.taking rule.id, entry = (.rule taken.1, taken.2.resolveAnchors anchors) := by
    obtain ⟨candidate, among, rfl⟩ := List.mem_map.mp mem
    obtain ⟨taken, takes, rfl⟩ := List.mem_map.mp among
    exact ⟨taken, takes, rfl⟩
  simp only [patternsOf] at mem
  split at mem
  · split at mem
    · rcases List.mem_append.mp mem with mem | mem
      · exact .inr (inner mem)
      · obtain rfl := List.mem_singleton.mp mem
        exact .inl rfl
    · rcases List.mem_cons.mp mem with rfl | mem
      · exact .inl rfl
      · exact .inr (inner mem)
  · exact .inr (inner mem)

theorem seeks_of_mem_patternsOf {table : RuleTable} {rule : Rule} {filled : Option String}
    {anchors : Anchors} {entry : Target × String}
    (mem : entry ∈ patternsOf table rule filled anchors) : table.seeks entry.1 = true := by
  rcases cases_of_mem_patternsOf mem with closing | ⟨taken, takes, rfl⟩
  · rw [closing]
    rfl
  · exact RuleTable.seeks_of_mem_taking takes

/-- A scanner looks for nothing else than targets, also by the patterns that it leaves out. -/
structure Aims (table : RuleTable) (scanner : Scanner engine) : Prop where
  labels : ∀ target ∈ scanner.labels, table.seeks target = true
  members : ∀ member ∈ scanner.members, table.seeks member.label = true

theorem Coherent.aims_ruleScanner {tokenizer : Tokenizer engine} (coherent : tokenizer.Coherent)
    {id : RuleId} {rule : Rule} (found : tokenizer.rule? id = some rule) (filled : Option String)
    (anchors : Anchors) :
    Aims tokenizer.compilation.table (tokenizer.ruleScanner rule filled anchors).1 := by
  rw [(coherent.ruleScanner found filled anchors).1]
  generalize fillable rule filled = filled
  constructor
  · intro target mem
    have labels : target ∈
        (patternsOf tokenizer.compilation.table rule filled anchors).map Prod.fst := by
      rwa [build, PatternSet.labels_ofList] at mem
    obtain ⟨entry, among, rfl⟩ := List.mem_map.mp labels
    exact seeks_of_mem_patternsOf among
  · intro member mem
    obtain ⟨entry, among, is, -⟩ := PatternSet.exists_of_mem_ofList mem
    rw [← is]
    exact seeks_of_mem_patternsOf among

end Tokenizer

/-! ## Warnings -/

/-- Nothing says that a rule was found that has no pattern. -/
def Warning.Quiet (warnings : List Warning) : Prop := ∀ id, Warning.patternless id ∉ warnings

theorem Warning.Quiet.nil : Quiet [] := fun _ => List.not_mem_nil

theorem Warning.Quiet.append {first second : List Warning} (quiet : Quiet first)
    (also : Quiet second) : Quiet (first ++ second) := by
  intro id mem
  rcases List.mem_append.mp mem with mem | mem
  · exact quiet id mem
  · exact also id mem

namespace Tokenizer

open Warning

theorem quiet_scanner (tokenizer : Tokenizer engine) (key : ScannerKey) (filled : Option String)
    (patterns : Unit → List (Target × String)) :
    Quiet (tokenizer.scanner key filled patterns).2.2 := by
  intro id mem
  simp only [Tokenizer.scanner] at mem
  split at mem
  · cases mem
  · obtain ⟨problem, -, is⟩ := List.mem_map.mp mem
    cases problem <;> cases is

theorem quiet_enterAll (tokenizer : Tokenizer engine) (path : ScopePath) (scopes : Option String) :
    Quiet (tokenizer.enterAll path scopes).2.2 := by
  intro id mem
  cases scopes <;> cases mem

/-! ## Injections -/

/-- What was collected is in order, although some of it may have been skipped. -/
structure Collection.Tidy (collection : Collection) : Prop where
  orderly : collection.compilation.Orderly
  quiet : Quiet collection.warnings

namespace Collection.Tidy

variable {collection : Collection}

theorem warn (tidy : collection.Tidy) {warning : Warning}
    (other : ∀ id, warning ≠ .patternless id) : (collection.warn warning).Tidy where
  orderly := tidy.orderly
  quiet := tidy.quiet.append fun id mem => other id (List.mem_singleton.mp mem).symm

/-- The compilation may go on. -/
theorem goOn (tidy : collection.Tidy) {after : Compilation} (orderly : after.Orderly) :
    Tidy { collection with compilation := after } :=
  ⟨orderly, tidy.quiet⟩

theorem add (tidy : collection.Tidy) (library : Library) {grammar : LinkedGrammar}
    (free : grammar.Free) (selector : String) {node : Node} (unowned : node.site.owner? = none) :
    (collection.add library grammar selector node).Tidy := by
  have around : grammar.surroundings.repository.Free := free.repository
  have compiled := tidy.orderly.compileRule library around unowned
  simp only [Collection.add]
  split
  · exact tidy.warn fun _ is => by cases is
  · exact tidy
  · split
    · next error after run =>
      rw [run] at compiled
      exact (tidy.goOn compiled).warn fun _ is => by cases is
    · next rule after run =>
      rw [run] at compiled
      exact ⟨compiled, tidy.quiet⟩

theorem addInjector (tidy : collection.Tidy) (library : Library) (injector : String) :
    (collection.addInjector library injector).Tidy := by
  have unowned : ∀ node ∈ collection.compilation.host.base?, node.site.owner? = none :=
    fun node is => tidy.orderly.host.repository _ node is
  have asked : Compile.Orders library collection.compilation
      (Compile.grammar? injector collection.compilation.host.base?)
      fun answer _ => ∀ grammar ∈ answer, grammar.Free :=
    Compile.orders_grammar? tidy.orderly injector unowned
  simp only [Collection.addInjector]
  split
  · next grammar after run =>
    obtain ⟨orderly, answers⟩ := asked _ _ run
    have free := (answers _ rfl).2 grammar rfl
    split
    · next selector node _ is =>
      exact (tidy.goOn orderly).add library free selector (free.repository _ node is)
    · exact tidy.goOn orderly
  · next answer after _ run => exact (tidy.goOn (asked _ _ run).1).warn fun _ is => by cases is

theorem ofCompilation {compilation : Compilation} (orderly : compilation.Orderly)
    (library : Library) : (Collection.ofCompilation compilation library).Tidy := by
  simp only [Collection.ofCompilation]
  refine List.foldlRecOn _ _ (motive := Tidy) ?_ fun _ tidy injector _ =>
    tidy.addInjector library injector
  refine List.foldlRecOn _ _ (motive := Tidy) ⟨orderly, .nil⟩ fun _ tidy entry mem => ?_
  exact tidy.add library orderly.host _ (orderly.host.injections entry mem)

end Collection.Tidy

theorem quiet_collected {tokenizer : Tokenizer engine} (orderly : tokenizer.compilation.Orderly)
    (library : Library) : Quiet (tokenizer.collected library).2.2 := by
  simp only [Tokenizer.collected]
  split
  · exact .nil
  · exact (Collection.Tidy.ofCompilation orderly library).quiet

end Tokenizer

namespace Moment

open Tokenizer

variable {tokenizer : Tokenizer engine}

/-- At any moment, the rules by which captures are read again are there. -/
theorem orderly (moment : Moment tokenizer) : tokenizer.compilation.Orderly := by
  induction moment with
  | @compiled tokenizer grammar library languages theme run =>
    have orderly := Compilation.orderly_compileRoot grammar library
    obtain ⟨-, root, compilation, compiled, rfl⟩ := ofGrammar_eq_ok_iff.mp run
    rwa [compiled] at orderly
  | @asked tokenizer other library moment asked ih =>
    obtain ⟨-, rfl | same⟩ := asked.sound moment.coherent
    -- Of all that is asked, only collecting injections compiles further rules.
    · simp only [Tokenizer.collected]
      split
      · exact ih
      · exact (Collection.Tidy.ofCompilation ih library).orderly
    · rwa [same.compilation]
  | restyled theme _ ih => exact ih

end Moment

end ScopeTokenizer
