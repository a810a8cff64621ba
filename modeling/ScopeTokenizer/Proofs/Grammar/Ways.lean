import ScopeTokenizer.Proofs.Grammar.Scoping

/-!
# Ways through grammars

If every rule was compiled again whenever it is met, compiling would go along ways: from rules to
those that are written or included in them, and never back to a rule that it is inside of. A way
says which named rules an include sees at its end. Since a rule is compiled once, by the way that
leads to it first, an include has a meaning of its own only if all ways agree on it.
-/

namespace ScopeTokenizer.Grammar

open Text

/-- The grammar in which an include looks up a name, and that name, if it does not look among the
named rules that it sees. -/
def IncludeTarget.outerName? : IncludeTarget → Option (String × String)
  | .self => none
  | .base => none
  | .entry _ => none
  | .grammar scope => some (scope, LinkedGrammar.selfKey)
  | .entryOf scope name => some (scope, name)

/-- A name is looked up in one place only. -/
theorem IncludeTarget.not_both {target : IncludeTarget} {name : String}
    {place : String × String} (isLocal : target.localName? = some name)
    (elsewhere : target.outerName? = some place) : False := by
  cases target <;> cases isLocal <;> cases elsewhere

namespace Node

/-- What the inside of a rule sees. A rule without a pattern adds its own named rules. -/
def inside (node : Node) (around : Surroundings) : Surroundings :=
  match node.rule.matchPattern, node.rule.beginPattern with
  | none, none => { around with repository := node.extend around.repository }
  | _, _ => around

theorem inside_of_bare {node : Node} (matchless : node.rule.matchPattern = none)
    (bare : node.rule.beginPattern = none) (around : Surroundings) : node.inside around =
      { around with repository := node.extend around.repository } := by
  rw [inside, matchless, bare]

theorem inside_of_begin {node : Node} {pattern : String}
    (begins : node.rule.beginPattern = some pattern) (around : Surroundings) :
    node.inside around = around := by
  rw [inside, begins]
  cases node.rule.matchPattern <;> rfl

/-- Whether a text is included inside a rule. -/
def Includes (node : Node) (text : String) : Prop :=
  ∃ entry ∈ node.entries, entry.rule.includeName = some text

end Node

/-- What is met in compiling. -/
inductive Visit where
  /-- A rule, in the surroundings in which it is compiled, inside the rules at some places. -/
  | rule (outer : List Site) (around : Surroundings) (node : Node)
  /-- A grammar that is looked up by its scope name. -/
  | grammar (scope : String) (grammar : LinkedGrammar)

namespace Sources

/-- Looks up a grammar for includes, which gets a base unless it is the host. -/
def link? (sources : Sources) (scope : String) (base : Option Node) : Option LinkedGrammar :=
  if scope = sources.host.scopeName then some (.ofDef sources.host none)
  else (sources.library.find? scope).map (.ofDef · base)

section Ways

variable (sources : Sources) (starts : Visit → Prop)

/-- What can be met on ways that start somewhere. A grammar that is looked up once stays linked as
it is then, so whoever includes from it may find it as any other one has linked it. -/
inductive Way : Visit → Prop where
  | start {visit : Visit} : starts visit → Way visit
  | own {outer : List Site} {around : Surroundings} {node entry : Node} :
      Way (.rule outer around node) → entry ∈ node.entries → entry.rule.includeName = none →
      entry.site ∉ node.site :: outer →
      Way (.rule (node.site :: outer) (node.inside around) entry)
  | named {outer : List Site} {around : Surroundings} {node target : Node} {text name : String} :
      Way (.rule outer around node) → node.Includes text →
      (IncludeTarget.ofText text).localName? = some name →
      (node.inside around).repository.find? name = some target →
      target.site ∉ node.site :: outer →
      Way (.rule (node.site :: outer) (node.inside around) target)
  | grammar {outer : List Site} {around : Surroundings} {node : Node} {text scope name : String}
      {grammar : LinkedGrammar} :
      Way (.rule outer around node) → node.Includes text →
      (IncludeTarget.ofText text).outerName? = some (scope, name) →
      sources.link? scope ((node.inside around).repository.find? LinkedGrammar.baseKey) =
        some grammar →
      Way (.grammar scope grammar)
  | entry {outer : List Site} {around : Surroundings} {node target : Node}
      {text scope name : String} {grammar : LinkedGrammar} :
      Way (.rule outer around node) → node.Includes text →
      (IncludeTarget.ofText text).outerName? = some (scope, name) → Way (.grammar scope grammar) →
      grammar.repository.find? name = some target → target.site ∉ node.site :: outer →
      Way (.rule (node.site :: outer) grammar.surroundings target)
  | capture {outer : List Site} {around : Surroundings} {node inner : Node}
      {captures : List (String × Node)} {key : String} :
      Way (.rule outer around node) → captures ∈ node.captureLists → (key, inner) ∈ captures →
      Compile.isNumber key → inner.rule.hasPatterns → inner.site ∉ node.site :: outer →
      Way (.rule (node.site :: outer) around inner)

/-- The rules that an include may mean for which some named rules can be seen, with the surroundings
in which it compiles them. -/
inductive Means (inside : Surroundings) (text : String) : Surroundings → Node → Prop where
  | named {name : String} {target : Node} :
      (IncludeTarget.ofText text).localName? = some name →
      inside.repository.find? name = some target → Means inside text inside target
  | entry {scope name : String} {grammar : LinkedGrammar} {target : Node} :
      (IncludeTarget.ofText text).outerName? = some (scope, name) →
      sources.Way starts (.grammar scope grammar) → grammar.repository.find? name = some target →
      Means inside text grammar.surroundings target

/-- An include means the same rule on all ways that lead to a rule. -/
def Settled (node : Node) (text : String) : Prop :=
  ∀ outer outer' around around' there there' target target',
    sources.Way starts (.rule outer around node) → sources.Way starts (.rule outer' around' node) →
    sources.Means starts (node.inside around) text there target →
    sources.Means starts (node.inside around') text there' target' → target.site = target'.site

/-- The way on which compiling starts: with the rule that stands for the host. -/
inductive Root : Visit → Prop where
  | host : Root (.rule [] (LinkedGrammar.ofDef sources.host none).surroundings sources.base)

end Ways

variable {sources : Sources} {starts : Visit → Prop} {outer : List Site} {around : Surroundings}
  {node : Node}

/-- A way goes on to what an include means, unless it is inside of that. -/
theorem Way.include {text : String} {there : Surroundings} {target : Node}
    (way : sources.Way starts (.rule outer around node)) (includes : node.Includes text)
    (means : sources.Means starts (node.inside around) text there target)
    (fresh : target.site ∉ node.site :: outer) :
    sources.Way starts (.rule (node.site :: outer) there target) := by
  cases means with
  | named isLocal found => exact .named way includes isLocal found fresh
  | entry elsewhere met found => exact .entry way includes elsewhere met found fresh

/-! ## Written rules -/

/-- Only written rules can be included by name. -/
def Offers (sources : Sources) (repository : Repository) : Prop :=
  ∀ name node, repository.find? name = some node → sources.Written node

theorem Offers.insert {repository : Repository} (offers : sources.Offers repository)
    (written : sources.Written node) (name : String) :
    sources.Offers (repository.insert name node) := by
  intro other found is
  rw [Keyed.find?_insert] at is
  split at is
  · cases is
    exact written
  · exact offers other found is

theorem Offers.inside (offers : sources.Offers around.repository) (written : sources.Written node) :
    sources.Offers (node.inside around).repository := by
  unfold Node.inside
  split
  · dsimp only [Node.extend]
    cases own : node.rule.repository with
    | none => exact offers
    | some entries =>
      refine List.foldlRecOn _ _ (motive := sources.Offers) offers
        fun repository offers entry mem => ?_
      exact offers.insert (.ownEntry written own mem) entry.1
  · exact offers

theorem offers_ofDef {scope : String} {grammar : GrammarDef} {base : Option Node}
    (found : sources.grammar? scope = some grammar)
    (written : ∀ node ∈ base, sources.Written node) :
    sources.Offers (LinkedGrammar.ofDef grammar base).repository := by
  have listed : sources.Offers (namedNodes ⟨grammar.scopeName, []⟩ .entry grammar.repository) :=
    fun name node is => .entry found (Keyed.mem_of_find? is)
  refine (listed.insert (.self found) _).insert ?_ _
  cases base with
  | none => exact .self found
  | some node => exact written node rfl

theorem offers_of_link? {scope : String} {base : Option Node} {grammar : LinkedGrammar}
    (written : ∀ node ∈ base, sources.Written node) (is : sources.link? scope base = some grammar) :
    sources.Offers grammar.repository := by
  unfold link? at is
  split at is
  · cases is
    exact offers_ofDef (if_pos rfl : sources.grammar? sources.host.scopeName = _) nofun
  · next other =>
    obtain ⟨definition, found, rfl⟩ := Option.map_eq_some_iff.mp is
    exact offers_ofDef ((if_neg other).trans found : sources.grammar? scope = _) written

end Sources

namespace Visit

variable (sources : Sources)

/-- Only written rules are met, and only these can be included there. -/
def Written : Visit → Prop
  | .rule _ around node => sources.Written node ∧ sources.Offers around.repository
  | .grammar _ linked => sources.Offers linked.repository

/-- A rule is met in surroundings of its grammar, and a grammar has the host as its base. -/
def AtHome : Visit → Prop
  | .rule outer around node => sources.base.site ∈ node.site :: outer ∧
    ∃ linked, sources.Links node.site.grammar linked ∧ sources.Visible linked around.repository
  | .grammar scope linked => sources.linked? scope = some linked

end Visit

namespace Sources

variable {sources : Sources} {starts : Visit → Prop} {visit : Visit}

theorem Way.written (begins : ∀ visit, starts visit → visit.Written sources)
    (way : sources.Way starts visit) : visit.Written sources := by
  induction way with
  | start start => exact begins _ start
  | own _ mem included _ ih =>
    obtain ⟨written, offers⟩ := ih
    exact ⟨.pattern written (Node.mem_patterns_of_mem_entries mem included), offers.inside written⟩
  | named _ _ _ found _ ih =>
    obtain ⟨written, offers⟩ := ih
    exact ⟨offers.inside written _ _ found, offers.inside written⟩
  | grammar _ _ _ is ih =>
    obtain ⟨written, offers⟩ := ih
    exact offers_of_link? (offers.inside written _) is
  | entry _ _ _ _ found _ _ offers => exact ⟨offers _ _ found, offers⟩
  | capture _ mem mem' _ _ _ ih =>
    obtain ⟨written, offers⟩ := ih
    obtain ⟨field, rfl⟩ := Node.exists_of_mem_captureLists mem
    exact ⟨.capture written mem', offers⟩

/-! ## Rules in their grammars -/

theorem Visible.inside {grammar : LinkedGrammar} {around : Surroundings} {node : Node}
    (visible : sources.Visible grammar around.repository)
    (links : sources.Links node.site.grammar grammar) (written : sources.Written node) :
    sources.Visible grammar (node.inside around).repository := by
  unfold Node.inside
  split
  · exact visible.extend links written
  · exact visible

theorem link?_base (sources : Sources) (scope : String) :
    sources.link? scope (some sources.base) = sources.linked? scope := by
  rw [link?, linked?, grammar?]
  split <;> rfl

/-- Unless some rule has a rule of its own by the name of the host, all rules are met in
surroundings of their grammars. -/
theorem Way.atHome (based : sources.Based)
    (begins : ∀ visit, starts visit → visit.Written sources ∧ visit.AtHome sources)
    (way : sources.Way starts visit) : visit.AtHome sources := by
  induction way with
  | start start => exact (begins _ start).2
  | own way mem included _ ih =>
    obtain ⟨passes, grammar, links, visible⟩ := ih
    obtain ⟨written, -⟩ := way.written fun visit start => (begins visit start).1
    refine ⟨List.mem_cons_of_mem _ passes, grammar, ?_, visible.inside links written⟩
    rw [Node.grammar_of_mem_entries mem]
    exact links
  | named way _ _ found fresh ih =>
    obtain ⟨passes, grammar, links, visible⟩ := ih
    obtain ⟨written, -⟩ := way.written fun visit start => (begins visit start).1
    have visible := visible.inside links written
    refine ⟨List.mem_cons_of_mem _ passes, grammar, ?_, visible⟩
    rcases visible.here _ _ found with base | here
    · exact absurd (base ▸ passes) fresh
    · exact ⟨here.symm, links.linked⟩
  | grammar way _ _ is ih =>
    obtain ⟨-, grammar, links, visible⟩ := ih
    obtain ⟨written, -⟩ := way.written fun visit start => (begins visit start).1
    rw [(visible.inside links written).base links based, link?_base] at is
    exact is
  | @entry _ _ _ _ _ scope _ grammar _ _ _ _ found fresh ih linked =>
    refine ⟨List.mem_cons_of_mem _ ih.1, grammar, ?_, sources.visible_of_linked? linked⟩
    rcases (sources.visible_of_linked? linked).here _ _ found with base | here
    · exact absurd (base ▸ ih.1) fresh
    · exact ⟨here.symm, scope, linked⟩
  | capture _ mem mem' _ _ _ ih =>
    obtain ⟨passes, grammar, links, visible⟩ := ih
    refine ⟨List.mem_cons_of_mem _ passes, grammar, ?_, visible⟩
    rw [Node.grammar_of_mem_captureLists mem mem']
    exact links

/-! ## Ways from the host -/

theorem Root.begins (root : sources.Root visit) : visit.Written sources ∧ visit.AtHome sources := by
  cases root
  have offers : sources.Offers (LinkedGrammar.ofDef sources.host none).repository :=
    offers_ofDef (if_pos rfl : sources.grammar? sources.host.scopeName = _) nofun
  exact ⟨⟨sources.written_base, offers⟩, List.mem_cons_self, _, sources.links_host,
    sources.visible_host⟩

theorem Way.written_of_root {outer : List Site} {around : Surroundings} {node : Node}
    (way : sources.Way sources.Root (.rule outer around node)) : sources.Written node :=
  (way.written fun _ root => root.begins.1).1

end Sources

end ScopeTokenizer.Grammar
