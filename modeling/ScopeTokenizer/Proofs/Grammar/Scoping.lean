import ScopeTokenizer.Proofs.Grammar.Places

/-!
# What names mean in a grammar

A rule may have named rules of its own, which only the rules below it see. They come in place of the
rules of the grammar with the same names. Any other name means the same all over a grammar, and so
do the names for the grammar itself and for the host, unless a rule has a rule of its own by one of
them.
-/

namespace ScopeTokenizer.Grammar

open Text

theorem RuleDef.rules_subset_of_repository {rule inner : RuleDef} {name : String}
    {entries : List (String × RuleDef)} (own : rule.repository = some entries)
    (mem : (name, inner) ∈ entries) : inner.rules ⊆ rule.rules := by
  intro other written
  have among := rules_subset_entriesRules mem written
  cases rule
  obtain rfl : _ = some entries := own
  simp [rules, repositoryRules, among]

/-- The name that an include looks up among the named rules that it sees. -/
def IncludeTarget.localName? : IncludeTarget → Option String
  | .self => some LinkedGrammar.selfKey
  | .base => some LinkedGrammar.baseKey
  | .entry name => some name
  | .grammar _ => none
  | .entryOf _ _ => none

namespace Sources

variable (sources : Sources)

/-- The rules that are written somewhere, together with their places. -/
inductive Written : Node → Prop where
  | self {scope : String} {grammar : GrammarDef} : sources.grammar? scope = some grammar →
      Written (LinkedGrammar.selfNode grammar)
  | entry {scope name : String} {grammar : GrammarDef} {node : Node} :
      sources.grammar? scope = some grammar →
      (name, node) ∈ namedNodes ⟨grammar.scopeName, []⟩ .entry grammar.repository → Written node
  | injection {scope selector : String} {grammar : GrammarDef} {node : Node} :
      sources.grammar? scope = some grammar →
      (selector, node) ∈ namedNodes ⟨grammar.scopeName, []⟩ .injection grammar.injections →
      Written node
  | pattern {node inner : Node} : Written node → inner ∈ node.patterns → Written inner
  | capture {node inner : Node} {field : CaptureField} {key : String} : Written node →
      (key, inner) ∈ node.capturesOf field (node.rule.capturesIn field) → Written inner
  | ownEntry {node inner : Node} {entries : List (String × RuleDef)} {name : String} :
      Written node → node.rule.repository = some entries →
      (name, inner) ∈ namedNodes node.site .entry entries → Written inner

/-- No rule has a rule of its own by one of the names that are given to whole grammars. -/
def Unshadowed : Prop :=
  ∀ rule ∈ sources.rules, ∀ entries ∈ rule.repository, ∀ entry ∈ entries,
    entry.1 ≠ LinkedGrammar.selfKey ∧ entry.1 ≠ LinkedGrammar.baseKey

/-- Some rule of a grammar has a rule of its own by a name. -/
def Owns (scope name : String) : Prop :=
  ∃ node, sources.Written node ∧ node.site.grammar = scope ∧
    ∃ entries ∈ node.rule.repository, name ∈ Keyed.keys entries

/-- No rule has a rule of its own by the name that is given to the host. -/
def Based : Prop := ∀ scope, ¬ sources.Owns scope LinkedGrammar.baseKey

/-- What an include refers to that is written in a grammar does not depend on the rules around
it. -/
def Uniform (scope text : String) : Prop :=
  ∀ name ∈ (IncludeTarget.ofText text).localName?, ¬ sources.Owns scope name

/-- A grammar with a scope name, linked. -/
structure Links (scope : String) (grammar : LinkedGrammar) : Prop where
  scopeName : grammar.scopeName = scope
  linked : ∃ key, sources.linked? key = some grammar

/-- The named rules that can be included somewhere in a grammar: those of the whole grammar, but
for names that some rule of it has for itself. -/
structure Visible (grammar : LinkedGrammar) (repository : Repository) : Prop where
  shared : ∀ name, ¬ sources.Owns grammar.scopeName name →
    repository.find? name = grammar.repository.find? name
  here : ∀ name node, repository.find? name = some node →
    node.site = sources.base.site ∨ node.site.grammar = grammar.scopeName

variable {sources} {node : Node}

theorem exists_of_mem_namedNodes {site : Site} {step : String → Step}
    {entries : List (String × RuleDef)} {name : String}
    (mem : (name, node) ∈ namedNodes site step entries) :
    ∃ rule, (name, rule) ∈ entries ∧ node = ⟨site.child (step name), rule⟩ := by
  obtain ⟨⟨other, rule⟩, listed, is⟩ := List.mem_map.mp mem
  cases is
  exact ⟨rule, listed, rfl⟩

theorem Written.rules_subset (written : sources.Written node) :
    node.rule.rules ⊆ sources.rules := by
  have whole {scope : String} {grammar : GrammarDef}
      (found : sources.grammar? scope = some grammar) : grammar.rules ⊆ sources.rules := by
    unfold grammar? at found
    split at found
    · cases found
      exact List.subset_append_left _ _
    · have mem : (scope, grammar) ∈ sources.library.grammars := Keyed.mem_of_find? found
      exact fun rule among => List.mem_append_right _ (List.mem_flatMap.mpr ⟨_, mem, among⟩)
  induction written with
  | self found =>
    refine List.Subset.trans ?_ (whole found)
    exact List.subset_append_of_subset_left _ (List.subset_append_left _ _)
  | entry found mem =>
    obtain ⟨rule, listed, rfl⟩ := exists_of_mem_namedNodes mem
    refine List.Subset.trans (RuleDef.rules_subset_entriesRules listed) ?_
    refine List.Subset.trans ?_ (whole found)
    exact List.subset_append_of_subset_left _ (List.subset_append_right _ _)
  | injection found mem =>
    obtain ⟨rule, listed, rfl⟩ := exists_of_mem_namedNodes mem
    refine List.Subset.trans (RuleDef.rules_subset_entriesRules listed) ?_
    exact List.Subset.trans (List.subset_append_right _ _) (whole found)
  | pattern _ mem ih =>
    obtain ⟨index, rule, is, rfl⟩ := Node.mem_patterns.mp mem
    exact List.Subset.trans (RuleDef.rules_subset_of_pattern (List.mem_of_getElem? is)) ih
  | capture _ mem ih =>
    obtain ⟨rule, listed, rfl⟩ := exists_of_mem_namedNodes mem
    exact List.Subset.trans (RuleDef.rules_subset_of_capture listed) ih
  | ownEntry _ own mem ih =>
    obtain ⟨rule, listed, rfl⟩ := exists_of_mem_namedNodes mem
    exact List.Subset.trans (RuleDef.rules_subset_of_repository own listed) ih

theorem written_base : sources.Written sources.base := .self (if_pos rfl)

theorem Unshadowed.not_owns (unshadowed : sources.Unshadowed) (scope : String) :
    ¬ sources.Owns scope LinkedGrammar.selfKey ∧ ¬ sources.Owns scope LinkedGrammar.baseKey := by
  have apart {name : String} (owns : sources.Owns scope name) :
      name ≠ LinkedGrammar.selfKey ∧ name ≠ LinkedGrammar.baseKey := by
    obtain ⟨node, written, -, entries, own, mem⟩ := owns
    obtain ⟨entry, listed, rfl⟩ := List.mem_map.mp mem
    exact unshadowed _ (written.rules_subset node.rule.mem_rules) entries own entry listed
  exact ⟨fun owns => (apart owns).1 rfl, fun owns => (apart owns).2 rfl⟩

theorem Unshadowed.based (unshadowed : sources.Unshadowed) : sources.Based :=
  fun scope => (unshadowed.not_owns scope).2

theorem linked?_host (sources : Sources) :
    sources.linked? sources.host.scopeName = some (.ofDef sources.host none) :=
  congrArg (Option.map _) (if_pos rfl)

theorem links_host (sources : Sources) :
    sources.Links sources.host.scopeName (.ofDef sources.host none) :=
  ⟨rfl, _, sources.linked?_host⟩

/-! ## Surroundings -/

section Surroundings

variable {scope : String} {grammar : LinkedGrammar} {repository : Repository}

theorem Links.base? (links : sources.Links scope grammar) : grammar.base? = some sources.base := by
  obtain ⟨-, key, linked⟩ := links
  obtain ⟨definition, -, rfl⟩ := Option.map_eq_some_iff.mp linked
  exact LinkedGrammar.base?_ofDef definition (some sources.base)

/-- The rule that stands for a grammar is written at a place of its own. -/
theorem Links.exists_self? (links : sources.Links scope grammar) :
    ∃ node, grammar.self? = some node ∧ node.site = ⟨scope, [.self]⟩ := by
  obtain ⟨rfl, key, linked⟩ := links
  obtain ⟨definition, -, rfl⟩ := Option.map_eq_some_iff.mp linked
  exact ⟨_, LinkedGrammar.self?_ofDef definition _, rfl⟩

/-- Without any rules of one rule alone, these are the named rules of the whole grammar. -/
theorem visible_of_linked? (linked : sources.linked? scope = some grammar) :
    sources.Visible grammar grammar.repository := by
  obtain ⟨definition, found, rfl⟩ := Option.map_eq_some_iff.mp linked
  refine ⟨fun _ _ => rfl, fun name node is => ?_⟩
  simp only [LinkedGrammar.ofDef, Keyed.find?_insert] at is
  split at is
  · cases is
    exact .inl rfl
  · split at is
    · cases is
      exact .inr rfl
    · obtain ⟨rule, -, rfl⟩ := exists_of_mem_namedNodes (Keyed.mem_of_find? is)
      exact .inr rfl

theorem visible_host (sources : Sources) :
    sources.Visible (.ofDef sources.host none) (LinkedGrammar.ofDef sources.host none).repository :=
  visible_of_linked? sources.linked?_host

theorem Visible.base (visible : sources.Visible grammar repository)
    (links : sources.Links scope grammar) (based : sources.Based) :
    repository.find? LinkedGrammar.baseKey = some sources.base :=
  (visible.shared _ (based _)).trans links.base?

theorem Visible.insert {name : String} (visible : sources.Visible grammar repository)
    (here : node.site.grammar = grammar.scopeName)
    (owns : sources.Owns grammar.scopeName name) :
    sources.Visible grammar (repository.insert name node) where
  shared := fun other free => by
    rw [Keyed.find?_insert, if_neg]
    · exact visible.shared other free
    · rintro rfl
      exact free owns
  here := fun other found is => by
    rw [Keyed.find?_insert] at is
    split at is
    · cases is
      exact .inr here
    · exact visible.here other found is

/-- The rules of one rule alone only hide rules of the same names. -/
theorem Visible.extend (visible : sources.Visible grammar repository)
    (links : sources.Links node.site.grammar grammar) (written : sources.Written node) :
    sources.Visible grammar (node.extend repository) := by
  unfold Node.extend
  cases own : node.rule.repository with
  | none => exact visible
  | some entries =>
    refine List.foldlRecOn _ _ (motive := sources.Visible grammar) visible ?_
    rintro repository visible ⟨name, inner⟩ mem
    obtain ⟨rule, listed, rfl⟩ := exists_of_mem_namedNodes mem
    refine visible.insert links.scopeName.symm ?_
    exact ⟨node, written, links.scopeName.symm, entries, own, List.mem_map_of_mem listed⟩

end Surroundings

end Sources

/-- What is inside a rule without a pattern is compiled in its surroundings, with its own named
rules. -/
theorem Compile.containerInner_entries {compile : Surroundings → Node → Compile RuleId}
    {node : Node} (matchless : node.rule.matchPattern = none) (bare : node.rule.beginPattern = none)
    (around : Surroundings) :
    containerInner compile around node =
      inner compile { around with repository := node.extend around.repository } node.entries := by
  unfold containerInner Node.entries
  rw [matchless, bare]
  dsimp only
  cases node.rule.includeName with
  | none => rfl
  | some text =>
    dsimp only
    split <;> rfl

end ScopeTokenizer.Grammar
