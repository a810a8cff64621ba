import ScopeTokenizer.Proofs.Grammar.Places
import ScopeTokenizer.Proofs.Json.Giving

/-!
# Grammars as they are read

In a grammar that is read from a text, each list of named rules is in the order of the names, and no
name occurs twice: a later entry of the text replaces an earlier one. A library keeps grammars under
their scope names. So grammars that are read make well-formed sources.
-/

namespace ScopeTokenizer.Grammar

open Json Text

namespace RuleDef

/-! ## Sorted rules -/

/-- The lists of named rules in a rule are sorted, also those in its inner rules. -/
inductive Sorted : RuleDef → Prop where
  | intro {rule : RuleDef} (captures : ∀ field, Keyed.Increasing (rule.capturesIn field))
      (captured : ∀ field, ∀ entry ∈ rule.capturesIn field, entry.2.Sorted)
      (patterns : ∀ inner ∈ rule.patterns, inner.Sorted)
      (repository : ∀ entries ∈ rule.repository, Keyed.Increasing entries)
      (named : ∀ entries ∈ rule.repository, ∀ entry ∈ entries, entry.2.Sorted) : rule.Sorted

/-- A sorted list of sorted rules. -/
def SortedEntries (entries : Keyed RuleDef) : Prop :=
  entries.Increasing ∧ ∀ entry ∈ entries, entry.2.Sorted

variable {rule changed : RuleDef} {entries : Keyed RuleDef}

@[simp] theorem sortedEntries_nil : SortedEntries [] := ⟨List.Pairwise.nil, List.forall_mem_nil _⟩

theorem sortedEntries_ofEntries {entries : List (String × RuleDef)}
    (each : ∀ entry ∈ entries, entry.2.Sorted) : SortedEntries (Keyed.ofEntries entries) :=
  ⟨Keyed.increasing_ofEntries entries, fun entry mem => each entry (Keyed.ofEntries_subset _ mem)⟩

namespace Sorted

theorem of_entries (captures : ∀ field, SortedEntries (rule.capturesIn field))
    (patterns : ∀ inner ∈ rule.patterns, inner.Sorted)
    (repository : ∀ entries ∈ rule.repository, SortedEntries entries) : rule.Sorted := by
  constructor
  · exact fun field => (captures field).1
  · exact fun field => (captures field).2
  · exact patterns
  · exact fun entries is => (repository entries is).1
  · exact fun entries is => (repository entries is).2

theorem capturesIn (sorted : rule.Sorted) (field : CaptureField) :
    SortedEntries (rule.capturesIn field) := by
  cases sorted with
  | intro captures captured => exact ⟨captures field, captured field⟩

theorem patterns (sorted : rule.Sorted) : ∀ inner ∈ rule.patterns, inner.Sorted := by
  cases sorted with
  | intro _ _ patterns => exact patterns

theorem repository (sorted : rule.Sorted) :
    ∀ entries ∈ rule.repository, SortedEntries entries := by
  cases sorted with
  | intro _ _ _ repository named => exact fun entries is => ⟨repository entries is, named entries is⟩

/-- All rules that are written in a sorted rule are sorted. -/
theorem of_mem_rules (sorted : rule.Sorted) {inner : RuleDef} (mem : inner ∈ rule.rules) :
    inner.Sorted := by
  induction sorted with
  | intro captures captured patterns repository named captureds inners nameds =>
    rcases cases_of_mem_rules mem with rfl | ⟨field, entry, among, mem⟩ | ⟨pattern, among, mem⟩ |
      ⟨entries, is, entry, among, mem⟩
    · exact .intro captures captured patterns repository named
    · exact captureds field entry among mem
    · exact inners pattern among mem
    · exact nameds entries is entry among mem

theorem empty : Sorted {} := by
  apply of_entries
  · intro field
    cases field <;> exact sortedEntries_nil
  · exact List.forall_mem_nil _
  · exact nofun

theorem ofName (name : String) : (RuleDef.ofName name).Sorted :=
  of_entries empty.capturesIn empty.patterns empty.repository

theorem ofMatch (pattern : String) : ({ matchPattern := some pattern } : RuleDef).Sorted :=
  of_entries empty.capturesIn empty.patterns empty.repository

theorem ofInclude (text : String) : ({ includeName := some text } : RuleDef).Sorted :=
  of_entries empty.capturesIn empty.patterns empty.repository

theorem ofPatterns {rules : List RuleDef} (given : ∀ rule ∈ rules, rule.Sorted) :
    ({ patterns := rules } : RuleDef).Sorted :=
  of_entries empty.capturesIn given empty.repository

end Sorted

/-! ## Fields -/

/-- A change of a rule that leaves a sorted rule sorted. -/
def Kept (change : RuleDef → RuleDef) : Prop := ∀ rule, rule.Sorted → (change rule).Sorted

theorem kept_of_same {change : RuleDef → RuleDef}
    (same : ∀ rule, (change rule).capturesIn = rule.capturesIn ∧
      (change rule).patterns = rule.patterns ∧ (change rule).repository = rule.repository) :
    Kept change := by
  intro rule sorted
  obtain ⟨captures, patterns, repository⟩ := same rule
  apply Sorted.of_entries
  · exact captures ▸ sorted.capturesIn
  · exact patterns ▸ sorted.patterns
  · exact repository ▸ sorted.repository

/-- Puts other captures in place of those of one list. -/
def recapture (field : CaptureField) (entries : Keyed RuleDef) (rule : RuleDef) : RuleDef :=
  match field with
  | .any => { rule with captures := entries }
  | .begin => { rule with beginCaptures := entries }
  | .end => { rule with endCaptures := entries }
  | .while => { rule with whileCaptures := entries }

theorem capturesIn_recapture (field other : CaptureField) (entries : Keyed RuleDef)
    (rule : RuleDef) : (recapture field entries rule).capturesIn other =
      if other = field then entries else rule.capturesIn other := by
  cases field <;> cases other <;> rfl

theorem kept_recapture (field : CaptureField) (given : SortedEntries entries) :
    Kept (recapture field entries) := by
  intro rule sorted
  apply Sorted.of_entries
  · intro other
    rw [capturesIn_recapture]
    split
    · exact given
    · exact sorted.capturesIn other
  · cases field <;> exact sorted.patterns
  · cases field <;> exact sorted.repository

theorem kept_patterns {rules : List RuleDef} (given : ∀ rule ∈ rules, rule.Sorted) :
    Kept fun rule => { rule with patterns := rules } :=
  fun _ sorted => .of_entries sorted.capturesIn given sorted.repository

theorem kept_repository {repository : Option (Keyed RuleDef)}
    (given : ∀ entries ∈ repository, SortedEntries entries) :
    Kept fun rule => { rule with repository } :=
  fun _ sorted => .of_entries sorted.capturesIn sorted.patterns given

/-! ## Rules in values that were read before -/

section Values

open Value

variable {shape : Value → Option RuleDef}

theorem sortedEntries_of_entries? (each : ∀ value rule, shape value = some rule → rule.Sorted)
    {value : Value} (is : entries? shape value = some entries) : SortedEntries entries := by
  unfold entries? at is
  split at is
  · obtain ⟨list, made, rfl⟩ := Option.map_eq_some_iff.mp is
    apply sortedEntries_ofEntries
    intro entry mem
    obtain ⟨written, -, made⟩ := exists_of_mem_mapM made mem
    obtain ⟨rule, is, rfl⟩ := Option.map_eq_some_iff.mp made
    exact each _ rule is
  · cases is

theorem sorted_of_captureOf? (each : ∀ value rule, shape value = some rule → rule.Sorted)
    (value : Value) (rule : RuleDef) (is : captureOf? shape value = some rule) : rule.Sorted := by
  unfold captureOf? at is
  split at is
  · cases is
    exact .ofName _
  · exact each _ _ is

theorem keep_slots (each : ∀ value rule, shape value = some rule → rule.Sorted) :
    Keep (slots shape) Sorted := by
  have fills {α : Type} {read : Value → Option α} {set : α → RuleDef → RuleDef}
      (kept : ∀ value a, read value = some a → Kept (set a)) (value : Value)
      (change : RuleDef → RuleDef) (is : (read value).map set = some change) : Kept change := by
    obtain ⟨a, given, rfl⟩ := Option.map_eq_some_iff.mp is
    exact kept value a given
  have captures (field : CaptureField) (value : Value) (entries : Keyed RuleDef)
      (is : entries? (captureOf? shape) value = some entries) : Kept (recapture field entries) :=
    kept_recapture field (sortedEntries_of_entries? (sorted_of_captureOf? each) is)
  simp only [Keep, slots, List.forall_mem_cons]
  refine ⟨?_, ?_, ?_, ?_, fills (captures .any), ?_, fills (captures .begin), ?_,
    fills (captures .end), ?_, fills (captures .while), fills ?patterns, fills ?repository, ?_,
    List.forall_mem_nil _⟩
  case patterns =>
    intro value rules is
    apply kept_patterns
    intro rule mem
    unfold all? at is
    split at is
    · obtain ⟨written, -, is⟩ := exists_of_mem_mapM is mem
      exact each written rule is
    · cases is
  case repository =>
    intro value repository is
    apply kept_repository
    intro entries given
    unfold optional? at is
    split at is
    · cases is
      cases given
    · obtain ⟨other, read, rfl⟩ := Option.map_eq_some_iff.mp is
      cases given
      exact sortedEntries_of_entries? each read
  all_goals exact fills fun _ _ _ => kept_of_same fun _ => ⟨rfl, rfl, rfl⟩

/-- A rule in a value is sorted, however deep it goes. -/
theorem sorted_of_ofValue? (depth : Nat) (value : Value) (rule : RuleDef)
    (is : ofValue? depth value = some rule) : rule.Sorted := by
  induction depth generalizing value rule with
  | zero => cases is
  | succ depth ih => exact holds_of_record? (keep_slots ih) .empty is

end Values

/-! ## Rules that are read -/

section Reading

open Reader

theorem gives_keyed {value : Reader RuleDef} (each : value.Gives Sorted) :
    (keyed value).Gives SortedEntries := by
  refine Gives.bind (gives_map each) ?_
  intro entries given
  exact .pure (sortedEntries_ofEntries given)

theorem gives_capture : capture.Gives Sorted := by
  unfold capture
  refine Gives.after ?_
  intro value
  split
  · next rule is => exact .pure (sorted_of_captureOf? (sorted_of_ofValue? _) value rule is)
  · exact .throw _

theorem keep_fields {rule : Reader RuleDef} (each : rule.Gives Sorted) :
    Keep (fields rule) Sorted := by
  have gives {α : Type} {read : Reader α} {set : α → RuleDef → RuleDef} {post : α → Prop}
      (given : read.Gives post) (kept : ∀ a, post a → Kept (set a)) :
      Gives (do return set (← read)) Kept :=
    .bind given fun a given => .pure (kept a given)
  have captures (field : CaptureField) :=
    gives (gives_keyed gives_capture) fun _ => kept_recapture field
  simp only [Keep, fields, List.forall_mem_cons]
  refine ⟨?_, ?_, ?_, ?_, captures .any, ?_, captures .begin, ?_, captures .end, ?_,
    captures .while, ?patterns, ?repository, ?_, List.forall_mem_nil _⟩
  case patterns => exact gives (gives_list each) fun _ => kept_patterns
  case repository => exact gives (gives_optional (gives_keyed each)) fun _ => kept_repository
  all_goals exact .after fun _ => .pure (kept_of_same fun _ => ⟨rfl, rfl, rfl⟩)

/-- A rule that is read is sorted, however deep it goes. -/
theorem gives_reader (depth : Nat) : (reader depth).Gives Sorted := by
  induction depth with
  | zero => exact .throw _
  | succ depth ih => exact gives_record false (keep_fields ih) .empty

end Reading

end RuleDef

/-! ## Grammars that are read -/

namespace GrammarDef

open Reader RuleDef

/-- The lists of named rules in a grammar are sorted. -/
structure Sorted (grammar : GrammarDef) : Prop where
  patterns : ∀ rule ∈ grammar.patterns, rule.Sorted
  repository : SortedEntries grammar.repository
  injections : SortedEntries grammar.injections

theorem keep_fields : Keep fields Sorted := by
  have gives {α : Type} {read : Reader α} {set : α → GrammarDef → GrammarDef} {post : α → Prop}
      (given : read.Gives post)
      (kept : ∀ a, post a → ∀ grammar, grammar.Sorted → (set a grammar).Sorted) :
      Gives (do return set (← read)) fun change => ∀ grammar, grammar.Sorted →
        (change grammar).Sorted :=
    .bind given fun a given => .pure (kept a given)
  have rule := gives_reader (maxDepth + 1)
  simp only [Keep, fields, List.forall_mem_cons]
  refine ⟨?_, ?_, ?_, ?_, ?patterns, ?repository, ?injections, ?_, ?_, List.forall_mem_nil _⟩
  case patterns =>
    exact gives (gives_list rule) fun _ given _ sorted =>
      ⟨given, sorted.repository, sorted.injections⟩
  case repository =>
    exact gives (gives_keyed rule) fun _ given _ sorted =>
      ⟨sorted.patterns, given, sorted.injections⟩
  case injections =>
    exact gives (gives_keyed rule) fun _ given _ sorted =>
      ⟨sorted.patterns, sorted.repository, given⟩
  all_goals
    exact .after fun _ => .pure fun _ sorted =>
      ⟨sorted.patterns, sorted.repository, sorted.injections⟩

/-- All rules that are written in a sorted grammar are sorted. -/
theorem Sorted.of_mem_rules {grammar : GrammarDef} (sorted : grammar.Sorted) {rule : RuleDef}
    (mem : rule ∈ grammar.rules) : rule.Sorted := by
  have named {entries : Keyed RuleDef} (sorted : SortedEntries entries)
      (mem : rule ∈ entriesRules entries) : rule.Sorted := by
    rw [entriesRules_eq] at mem
    obtain ⟨entry, among, mem⟩ := List.mem_flatMap.mp mem
    exact (sorted.2 entry among).of_mem_rules mem
  have self : (LinkedGrammar.selfNode grammar).rule.Sorted :=
    .of_entries RuleDef.Sorted.empty.capturesIn sorted.patterns nofun
  rcases List.mem_append.mp mem with mem | mem
  · rcases List.mem_append.mp mem with mem | mem
    · exact self.of_mem_rules mem
    · exact named sorted.repository mem
  · exact named sorted.injections mem

/-- A grammar that is read from a text is sorted. -/
theorem sorted_of_ofJson {text : String} {grammar : GrammarDef} (read : ofJson text = .ok grammar) :
    grammar.Sorted :=
  (gives_record false keep_fields
    ⟨List.forall_mem_nil _, sortedEntries_nil, sortedEntries_nil⟩).run read

/-- The injections of a sorted grammar stand in the order of their selectors. -/
theorem Sorted.increasing_injections {grammar : GrammarDef} (sorted : grammar.Sorted)
    (base : Option Node) : Keyed.Increasing (LinkedGrammar.ofDef grammar base).injections := by
  have keys : Keyed.keys (LinkedGrammar.ofDef grammar base).injections =
      Keyed.keys grammar.injections := List.map_map
  unfold Keyed.Increasing
  rw [keys]
  exact sorted.injections.1

end GrammarDef

/-! ## Libraries -/

namespace Library

/-- Sorted grammars, each under its scope name. -/
structure WellFormed (library : Library) : Prop where
  named : ∀ entry ∈ library.grammars, entry.2.scopeName = entry.1
  sorted : ∀ entry ∈ library.grammars, entry.2.Sorted

variable {library : Library}

theorem wellFormed_empty : ({} : Library).WellFormed :=
  ⟨List.forall_mem_nil _, List.forall_mem_nil _⟩

theorem WellFormed.inject (wellFormed : library.WellFormed) (target injector : String) :
    (library.inject target injector).WellFormed := by
  constructor
  · rw [grammars_inject]
    exact wellFormed.named
  · rw [grammars_inject]
    exact wellFormed.sorted

theorem WellFormed.add (wellFormed : library.WellFormed) {grammar : GrammarDef}
    (sorted : grammar.Sorted) : (library.add grammar).WellFormed := by
  have entry {P : String × GrammarDef → Prop} (new : P (grammar.scopeName, grammar))
      (others : ∀ entry ∈ library.grammars, P entry) :
      ∀ entry ∈ (library.add grammar).grammars, P entry := by
    intro entry mem
    rw [grammars_add] at mem
    rcases Keyed.eq_or_mem_of_mem_insert mem with rfl | mem
    · exact new
    · exact others entry mem
  exact ⟨entry rfl wellFormed.named, entry sorted wellFormed.sorted⟩

end Library

namespace Sources

variable {sources : Sources}

theorem wellFormed_of_sorted (host : sources.host.Sorted) (library : sources.library.WellFormed) :
    sources.WellFormed := by
  constructor
  · exact library.named
  · intro rule mem field
    suffices sorted : rule.Sorted from (sorted.capturesIn field).1.nodup
    rcases List.mem_append.mp mem with mem | mem
    · exact host.of_mem_rules mem
    · obtain ⟨entry, among, mem⟩ := List.mem_flatMap.mp mem
      exact (library.sorted entry among).of_mem_rules mem

end Sources

end ScopeTokenizer.Grammar
