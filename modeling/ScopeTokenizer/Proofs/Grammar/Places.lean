import ScopeTokenizer.Grammar.Compile

/-!
# Rules that are reached

Compiling a grammar starts from the rule that stands for it, and goes on to the rules that it
tries inside, to what their includes mean, and to the captures that are read again. These are the
rules that are reached. A rule is known by its place: no two rules that are reached have the same
one.
-/

namespace ScopeTokenizer.Grammar

open Text

/-! ## Written rules -/

mutual

/-- The rules that are written in a rule, itself included. -/
def RuleDef.rules : RuleDef → List RuleDef
  | rule@⟨_, _, _, _, captures, _, beginCaptures, _, endCaptures, _, whileCaptures, patterns,
      repository, _⟩ =>
    rule :: (entriesRules captures ++ entriesRules beginCaptures ++ entriesRules endCaptures ++
      entriesRules whileCaptures ++ listRules patterns ++ repositoryRules repository)

/-- The rules that are written in the rules of a list. -/
def listRules : List RuleDef → List RuleDef
  | [] => []
  | rule :: rules => rule.rules ++ listRules rules

/-- The rules that are written in the entries of a list. -/
def entriesRules : List (String × RuleDef) → List RuleDef
  | [] => []
  | (_, rule) :: entries => rule.rules ++ entriesRules entries

/-- The rules that are written in a repository, if there is one. -/
def repositoryRules : Option (List (String × RuleDef)) → List RuleDef
  | none => []
  | some entries => entriesRules entries

end

/-- The captures of some list. -/
def RuleDef.capturesIn (rule : RuleDef) : CaptureField → List (String × RuleDef)
  | .any => rule.captures
  | .begin => rule.beginCaptures
  | .end => rule.endCaptures
  | .while => rule.whileCaptures

/-- The rules that are written in a grammar. The grammar counts as a rule. -/
def GrammarDef.rules (grammar : GrammarDef) : List RuleDef :=
  (LinkedGrammar.selfNode grammar).rule.rules ++ entriesRules grammar.repository ++
    entriesRules grammar.injections

/-- The rule that is written at a place of a grammar. -/
def GrammarDef.ruleAt? (grammar : GrammarDef) : List Step → Option RuleDef
  | [.self] => some (LinkedGrammar.selfNode grammar).rule
  | [.entry name] => Keyed.find? grammar.repository name
  | [.injection selector] => Keyed.find? grammar.injections selector
  | .pattern index :: outer => (grammar.ruleAt? outer).bind fun rule => rule.patterns[index]?
  | .capture field key :: outer =>
    (grammar.ruleAt? outer).bind fun rule => Keyed.find? (rule.capturesIn field) key
  | _ => none

theorem listRules_eq (rules : List RuleDef) : listRules rules = rules.flatMap RuleDef.rules := by
  induction rules with
  | nil => rfl
  | cons rule rules ih => rw [listRules, ih, List.flatMap_cons]

theorem entriesRules_eq (entries : List (String × RuleDef)) :
    entriesRules entries = entries.flatMap fun entry => entry.2.rules := by
  induction entries with
  | nil => rfl
  | cons entry entries ih => rw [entriesRules, ih, List.flatMap_cons]

theorem repositoryRules_eq (repository : Option (List (String × RuleDef))) :
    repositoryRules repository = repository.toList.flatMap entriesRules := by
  cases repository with
  | none => rfl
  | some entries => exact (List.flatMap_singleton _ _).symm

theorem RuleDef.rules_subset_listRules {rule : RuleDef} {rules : List RuleDef}
    (mem : rule ∈ rules) : rule.rules ⊆ listRules rules := by
  intro inner written
  rw [listRules_eq]
  exact List.mem_flatMap_of_mem mem written

theorem RuleDef.rules_subset_entriesRules {key : String} {rule : RuleDef}
    {entries : List (String × RuleDef)} (mem : (key, rule) ∈ entries) :
    rule.rules ⊆ entriesRules entries := by
  intro inner written
  rw [entriesRules_eq]
  exact List.mem_flatMap_of_mem mem written

namespace RuleDef

variable {rule inner : RuleDef}

theorem mem_rules (rule : RuleDef) : rule ∈ rule.rules := by
  cases rule
  rw [rules]
  exact List.mem_cons_self

/-- What is written in a rule is the rule itself, or it is written in one of its parts. -/
theorem cases_of_mem_rules (mem : inner ∈ rule.rules) : inner = rule ∨
    (∃ field, ∃ entry ∈ rule.capturesIn field, inner ∈ entry.2.rules) ∨
    (∃ pattern ∈ rule.patterns, inner ∈ pattern.rules) ∨
    ∃ entries ∈ rule.repository, ∃ entry ∈ entries, inner ∈ entry.2.rules := by
  cases rule
  simp only [rules, List.mem_cons, List.mem_append, listRules_eq, entriesRules_eq,
    repositoryRules_eq, List.mem_flatMap, Option.mem_toList] at mem
  rcases mem with rfl | ((((captures | captures) | captures) | captures) | patterns) | repository
  · exact .inl rfl
  · exact .inr (.inl ⟨.any, captures⟩)
  · exact .inr (.inl ⟨.begin, captures⟩)
  · exact .inr (.inl ⟨.end, captures⟩)
  · exact .inr (.inl ⟨.while, captures⟩)
  · exact .inr (.inr (.inl patterns))
  · exact .inr (.inr (.inr repository))

theorem rules_subset_of_pattern (mem : inner ∈ rule.patterns) : inner.rules ⊆ rule.rules := by
  intro other written
  have among := rules_subset_listRules mem written
  cases rule
  simp [rules, among]

theorem rules_subset_of_capture {field : CaptureField} {key : String}
    (mem : (key, inner) ∈ rule.capturesIn field) : inner.rules ⊆ rule.rules := by
  intro other written
  have among := rules_subset_entriesRules mem written
  cases rule
  cases field <;> simp only [capturesIn] at among <;> simp [rules, among]

end RuleDef

/-- What is written in a rule at a place is written in the grammar. -/
theorem GrammarDef.rules_subset_of_ruleAt? {grammar : GrammarDef} {path : List Step}
    {rule : RuleDef} (is : grammar.ruleAt? path = some rule) : rule.rules ⊆ grammar.rules := by
  have entry {key : String} {rule : RuleDef} {entries : List (String × RuleDef)}
      (found : Keyed.find? entries key = some rule) : rule.rules ⊆ entriesRules entries :=
    RuleDef.rules_subset_entriesRules (Keyed.mem_of_find? found)
  fun_induction ruleAt? grammar path generalizing rule with
  | case1 =>
    cases is
    exact List.subset_append_of_subset_left _ (List.subset_append_left _ _)
  | case2 name =>
    exact List.subset_append_of_subset_left _ (List.subset_append_of_subset_right _ (entry is))
  | case3 selector => exact List.subset_append_of_subset_right _ (entry is)
  | case4 index outer ih =>
    obtain ⟨around, found, is⟩ := Option.bind_eq_some_iff.mp is
    exact List.Subset.trans (RuleDef.rules_subset_of_pattern (List.mem_of_getElem? is)) (ih found)
  | case5 field key outer ih =>
    obtain ⟨around, found, is⟩ := Option.bind_eq_some_iff.mp is
    exact List.Subset.trans (RuleDef.rules_subset_of_capture (Keyed.mem_of_find? is)) (ih found)
  | case6 => cases is

/-! ## Nodes -/

namespace Node

/-- What is tried inside a rule. A rule that is no more than an include has it as its only
pattern. -/
def entries (node : Node) : List Node :=
  match node.rule.matchPattern, node.rule.beginPattern, node.rule.includeName with
  | some _, _, _ => []
  | none, none, some text =>
    if node.rule.hasPatterns then node.patterns else [⟨node.site, { includeName := some text }⟩]
  | none, _, _ => node.patterns

/-- The captures of the patterns that a rule has use for. -/
def captureLists (node : Node) : List (List (String × Node)) :=
  match node.rule.matchPattern, node.rule.beginPattern, node.rule.whilePattern with
  | some _, _, _ => [node.captures]
  | none, none, _ => []
  | none, some _, some _ => [node.beginCaptures, node.whileCaptures]
  | none, some _, none => [node.beginCaptures, node.endCaptures]

section Shapes

variable {node : Node} {pattern condition : String}

theorem entries_of_match (matched : node.rule.matchPattern = some pattern) : node.entries = [] := by
  simp [entries, matched]

theorem entries_of_begin (matchless : node.rule.matchPattern = none)
    (begins : node.rule.beginPattern = some pattern) : node.entries = node.patterns := by
  simp [entries, matchless, begins]

theorem captureLists_of_match (matched : node.rule.matchPattern = some pattern) :
    node.captureLists = [node.captures] := by
  simp [captureLists, matched]

theorem captureLists_of_bare (matchless : node.rule.matchPattern = none)
    (bare : node.rule.beginPattern = none) : node.captureLists = [] := by
  simp [captureLists, matchless, bare]

theorem captureLists_of_while (matchless : node.rule.matchPattern = none)
    (begins : node.rule.beginPattern = some pattern)
    (continues : node.rule.whilePattern = some condition) :
    node.captureLists = [node.beginCaptures, node.whileCaptures] := by
  simp [captureLists, matchless, begins, continues]

theorem captureLists_of_end (matchless : node.rule.matchPattern = none)
    (begins : node.rule.beginPattern = some pattern) (ends : node.rule.whilePattern = none) :
    node.captureLists = [node.beginCaptures, node.endCaptures] := by
  simp [captureLists, matchless, begins, ends]

end Shapes

theorem mem_patterns {node inner : Node} : inner ∈ node.patterns ↔
    ∃ index rule, node.rule.patterns[index]? = some rule ∧
      inner = ⟨node.site.child (.pattern index), rule⟩ := by
  simp only [patterns, listedNodes, List.mem_map, Prod.exists, List.mk_mem_zipIdx_iff_getElem?]
  constructor
  · rintro ⟨rule, index, is, rfl⟩
    exact ⟨index, rule, is, rfl⟩
  · rintro ⟨index, rule, is, rfl⟩
    exact ⟨rule, index, is, rfl⟩

theorem mem_patterns_of_mem_entries {node entry : Node} (mem : entry ∈ node.entries)
    (own : entry.rule.includeName = none) : entry ∈ node.patterns := by
  unfold entries at mem
  split at mem
  · cases mem
  · split at mem
    · exact mem
    · obtain rfl := List.mem_singleton.mp mem
      cases own
  · exact mem

/-- All entries of a rule are in the grammar that the rule is in. -/
theorem grammar_of_mem_entries {node entry : Node} (mem : entry ∈ node.entries) :
    entry.site.grammar = node.site.grammar := by
  have pattern (mem : entry ∈ node.patterns) : entry.site.grammar = node.site.grammar := by
    obtain ⟨index, rule, -, rfl⟩ := mem_patterns.mp mem
    rfl
  unfold entries at mem
  split at mem
  · cases mem
  · split at mem
    · exact pattern mem
    · obtain rfl := List.mem_singleton.mp mem
      rfl
  · exact pattern mem

theorem exists_of_mem_captureLists {node : Node} {captures : List (String × Node)}
    (mem : captures ∈ node.captureLists) :
    ∃ field, captures = node.capturesOf field (node.rule.capturesIn field) := by
  have listed (field : CaptureField) (is : captures = node.capturesOr field
      (node.rule.capturesIn field)) :
      ∃ field, captures = node.capturesOf field (node.rule.capturesIn field) := by
    unfold capturesOr at is
    split at is
    · exact ⟨.any, is⟩
    · exact ⟨field, is⟩
  unfold captureLists at mem
  split at mem
  · exact ⟨.any, List.mem_singleton.mp mem⟩
  · cases mem
  · rcases List.mem_cons.mp mem with is | mem
    · exact listed .begin is
    · exact listed .while (List.mem_singleton.mp mem)
  · rcases List.mem_cons.mp mem with is | mem
    · exact listed .begin is
    · exact listed .end (List.mem_singleton.mp mem)

theorem grammar_of_mem_captureLists {node captured : Node} {captures : List (String × Node)}
    {key : String} (mem : captures ∈ node.captureLists) (mem' : (key, captured) ∈ captures) :
    captured.site.grammar = node.site.grammar := by
  obtain ⟨field, rfl⟩ := exists_of_mem_captureLists mem
  obtain ⟨entry, -, is⟩ := List.mem_map.mp mem'
  cases is
  rfl

end Node

/-! ## Sources -/

/-- A grammar to compile, with others to include from. -/
structure Sources where
  host : GrammarDef
  library : Library

namespace Sources

variable (sources : Sources)

/-- The rule that stands for the host. -/
def base : Node := LinkedGrammar.selfNode sources.host

/-- The grammar with a scope name. -/
def grammar? (scope : String) : Option GrammarDef :=
  if scope = sources.host.scopeName then some sources.host else sources.library.find? scope

/-- The grammar with a scope name, linked. -/
def linked? (scope : String) : Option LinkedGrammar :=
  (sources.grammar? scope).map fun grammar => .ofDef grammar (some sources.base)

/-- What an include means that is written in a grammar. -/
def included? (grammar : LinkedGrammar) (text : String) : Option Node :=
  match IncludeTarget.ofText text with
  | .self => grammar.self?
  | .base => grammar.base?
  | .entry name => grammar.repository.find? name
  | .grammar scope => (sources.linked? scope).bind (·.self?)
  | .entryOf scope name => (sources.linked? scope).bind (·.repository.find? name)

/-- The rule that an entry of a list of patterns means. -/
def meant? (entry : Node) : Option Node :=
  match entry.rule.includeName with
  | some text => (sources.linked? entry.site.grammar).bind (sources.included? · text)
  | none => some entry

/-- The rules that compiling the host meets. -/
inductive Reached (sources : Sources) : Node → Prop where
  | base : Reached sources sources.base
  | entry {node entry target : Node} : Reached sources node → entry ∈ node.entries →
      sources.meant? entry = some target → Reached sources target
  | capture {node captured : Node} {captures : List (String × Node)} {key : String} :
      Reached sources node → captures ∈ node.captureLists → (key, captured) ∈ captures →
      Compile.isNumber key → captured.rule.hasPatterns → Reached sources captured

/-- A rule that is reached, with the surroundings of its grammar. Those of the rule that stands for
the host may be any, since it is compiled before everything else. -/
structure Placed (around : Surroundings) (node : Node) : Prop where
  reached : sources.Reached node
  surroundings : node = sources.base ∨
    ∃ grammar, sources.linked? node.site.grammar = some grammar ∧ grammar.surroundings = around

/-- The rules that are written in all grammars. -/
def rules : List RuleDef :=
  sources.host.rules ++ sources.library.grammars.flatMap fun entry => entry.2.rules

/-- Grammars as they are read: the library has them by their scope names, and a rule has at most
one capture of each list under a key. -/
structure WellFormed : Prop where
  named : ∀ entry ∈ sources.library.grammars, entry.2.scopeName = entry.1
  keys : ∀ rule ∈ sources.rules, ∀ field, ((rule.capturesIn field).map Prod.fst).Nodup

/-- No rule has named rules of its own. -/
def Plain : Prop := ∀ rule ∈ sources.rules, rule.repository = none

/-- The rule that is written at a place. -/
def ruleAt? (site : Site) : Option RuleDef :=
  (sources.grammar? site.grammar).bind fun grammar => grammar.ruleAt? site.path

variable {sources}

theorem mem_rules_of_ruleAt? {site : Site} {rule : RuleDef}
    (is : sources.ruleAt? site = some rule) : rule ∈ sources.rules := by
  obtain ⟨grammar, found, is⟩ := Option.bind_eq_some_iff.mp is
  have written := GrammarDef.rules_subset_of_ruleAt? is rule.mem_rules
  unfold grammar? at found
  split at found
  · cases found
    exact List.mem_append_left _ written
  · have mem : (site.grammar, grammar) ∈ sources.library.grammars := Keyed.mem_of_find? found
    exact List.mem_append_right _ (List.mem_flatMap.mpr ⟨_, mem, written⟩)

/-! ## Places of reached rules -/

theorem WellFormed.scopeName_eq (wellFormed : sources.WellFormed) {scope : String}
    {grammar : GrammarDef} (found : sources.grammar? scope = some grammar) :
    grammar.scopeName = scope := by
  unfold grammar? at found
  split at found
  · next is =>
    cases found
    exact is.symm
  · exact wellFormed.named _ (Keyed.mem_of_find? found)

theorem ruleAt?_base : sources.ruleAt? sources.base.site = some sources.base.rule := by
  simp [ruleAt?, grammar?, base, LinkedGrammar.selfNode, GrammarDef.ruleAt?]

/-- What a repository has under a name is the rule that stands for the host, or it is a rule of
the grammar itself. -/
theorem WellFormed.of_find? (wellFormed : sources.WellFormed) {scope name : String}
    {grammar : LinkedGrammar} {node : Node} (linked : sources.linked? scope = some grammar)
    (found : grammar.repository.find? name = some node) :
    sources.ruleAt? node.site = some node.rule ∧
      (node = sources.base ∨ sources.linked? node.site.grammar = some grammar) := by
  obtain ⟨definition, is, rfl⟩ := Option.map_eq_some_iff.mp linked
  obtain rfl := wellFormed.scopeName_eq is
  simp only [LinkedGrammar.ofDef, Keyed.find?_insert, find?_namedNodes] at found
  split at found
  · cases found
    exact ⟨ruleAt?_base, .inl rfl⟩
  · split at found
    · cases found
      refine ⟨?_, .inr linked⟩
      simp [ruleAt?, is, LinkedGrammar.selfNode, GrammarDef.ruleAt?]
    · obtain ⟨rule, entry, rfl⟩ := Option.map_eq_some_iff.mp found
      refine ⟨?_, .inr linked⟩
      simp [ruleAt?, is, Site.child, GrammarDef.ruleAt?, entry]

/-- An include means an entry of the repository of some grammar. -/
theorem exists_of_included? {scope text : String} {grammar : LinkedGrammar} {target : Node}
    (linked : sources.linked? scope = some grammar)
    (is : sources.included? grammar text = some target) :
    ∃ scope' grammar' name, sources.linked? scope' = some grammar' ∧
      grammar'.repository.find? name = some target := by
  unfold included? at is
  split at is
  · exact ⟨scope, grammar, _, linked, is⟩
  · exact ⟨scope, grammar, _, linked, is⟩
  · exact ⟨scope, grammar, _, linked, is⟩
  · next scope' _ =>
    obtain ⟨grammar', linked', is⟩ := Option.bind_eq_some_iff.mp is
    exact ⟨scope', grammar', _, linked', is⟩
  · next scope' name _ =>
    obtain ⟨grammar', linked', is⟩ := Option.bind_eq_some_iff.mp is
    exact ⟨scope', grammar', name, linked', is⟩

theorem ruleAt?_pattern (site : Site) (index : Nat) :
    sources.ruleAt? (site.child (.pattern index)) =
      (sources.ruleAt? site).bind fun rule => rule.patterns[index]? := by
  simp [ruleAt?, Site.child, GrammarDef.ruleAt?, Option.bind_assoc]

theorem ruleAt?_capture (site : Site) (field : CaptureField) (key : String) :
    sources.ruleAt? (site.child (.capture field key)) =
      (sources.ruleAt? site).bind fun rule => Keyed.find? (rule.capturesIn field) key := by
  simp [ruleAt?, Site.child, GrammarDef.ruleAt?, Option.bind_assoc]

/-- An entry that means a rule is written at its place, or it means a rule of a repository. -/
theorem WellFormed.written_of_meant? (wellFormed : sources.WellFormed) {node entry target : Node}
    (written : sources.ruleAt? node.site = some node.rule) (mem : entry ∈ node.entries)
    (means : sources.meant? entry = some target) :
    sources.ruleAt? target.site = some target.rule := by
  unfold meant? at means
  split at means
  · obtain ⟨grammar, linked, means⟩ := Option.bind_eq_some_iff.mp means
    obtain ⟨scope, grammar, name, linked, found⟩ := exists_of_included? linked means
    exact (wellFormed.of_find? linked found).1
  · next own =>
    cases means
    obtain ⟨index, rule, is, rfl⟩ := Node.mem_patterns.mp (Node.mem_patterns_of_mem_entries mem own)
    rw [ruleAt?_pattern, written]
    exact is

theorem WellFormed.written_of_capture (wellFormed : sources.WellFormed) {node captured : Node}
    {captures : List (String × Node)} {key : String}
    (written : sources.ruleAt? node.site = some node.rule) (mem : captures ∈ node.captureLists)
    (mem' : (key, captured) ∈ captures) :
    sources.ruleAt? captured.site = some captured.rule := by
  obtain ⟨field, rfl⟩ := Node.exists_of_mem_captureLists mem
  obtain ⟨⟨key, rule⟩, mem, is⟩ := List.mem_map.mp mem'
  cases is
  rw [ruleAt?_capture, written]
  exact Keyed.find?_of_mem (wellFormed.keys _ (mem_rules_of_ruleAt? written) field) mem

/-- A rule that is reached is the one that is written at its place. -/
theorem Reached.written {node : Node} (reached : sources.Reached node)
    (wellFormed : sources.WellFormed) : sources.ruleAt? node.site = some node.rule := by
  induction reached with
  | base => exact ruleAt?_base
  | entry _ mem means ih => exact wellFormed.written_of_meant? ih mem means
  | capture _ mem mem' _ _ ih => exact wellFormed.written_of_capture ih mem mem'

/-- At one place, there is only one rule that is reached. -/
theorem Reached.eq_of_site_eq {first second : Node} (reached : sources.Reached first)
    (reached' : sources.Reached second) (wellFormed : sources.WellFormed)
    (same : first.site = second.site) : first = second := by
  have written := reached.written wellFormed
  rw [same, reached'.written wellFormed] at written
  cases first
  cases second
  cases same
  cases written
  rfl

end Sources

end ScopeTokenizer.Grammar
