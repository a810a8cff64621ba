import ScopeTokenizer.Grammar.Definition

/-!
# Places in a grammar

Two rules that are written alike are still two rules. A rule of a grammar is therefore told
from others by where it is written: by the grammar and the way that leads to it.
-/

namespace ScopeTokenizer.Grammar

open Text

/-- The lists of captures that a rule may have. -/
inductive CaptureField where
  | any
  | «begin»
  | «end»
  | while
  deriving DecidableEq, Repr

/-- One step from a rule to a rule that is written in it. -/
inductive Step where
  /-- To the rule that stands for the grammar itself. -/
  | self
  | pattern (index : Nat)
  | capture (field : CaptureField) (key : String)
  | entry (name : String)
  | injection (selector : String)
  deriving DecidableEq, Repr

/-- Where a rule is written. The last step comes first. -/
structure Site where
  grammar : String
  path : List Step
  deriving DecidableEq, Repr

/-- A rule together with its place. -/
structure Node where
  site : Site
  rule : RuleDef

/-- The rules that may be included by name. -/
abbrev Repository := Keyed Node

namespace Site

/-- A place below another one. -/
def child (site : Site) (step : Step) : Site := { site with path := step :: site.path }

end Site

/-- The entries of a list of named rules, below a place. -/
def namedNodes (site : Site) (step : String → Step) (entries : List (String × RuleDef)) :
    List (String × Node) :=
  entries.map fun (name, rule) => (name, ⟨site.child (step name), rule⟩)

theorem find?_namedNodes (site : Site) (step : String → Step) (entries : List (String × RuleDef))
    (name : String) :
    Keyed.find? (namedNodes site step entries) name =
      (Keyed.find? entries name).map fun rule => ⟨site.child (step name), rule⟩ := by
  induction entries with
  | nil => rfl
  | cons entry entries ih =>
    obtain ⟨other, rule⟩ := entry
    simp only [namedNodes, List.map_cons, Keyed.find?] at ih ⊢
    split
    · next is =>
      rw [is]
      rfl
    · exact ih

/-- The rules of a list, below a place. -/
def listedNodes (site : Site) (rules : List RuleDef) : List Node :=
  rules.zipIdx.map fun (rule, index) => ⟨site.child (.pattern index), rule⟩

namespace Node

/-- The rules tried inside a rule. -/
def patterns (node : Node) : List Node := listedNodes node.site node.rule.patterns

/-- The captures of some list. -/
def capturesOf (node : Node) (field : CaptureField) (entries : List (String × RuleDef)) :
    List (String × Node) :=
  namedNodes node.site (.capture field) entries

/-- The captures of the rule's only pattern. -/
def captures (node : Node) : List (String × Node) := node.capturesOf .any node.rule.captures

/-- The captures of a list, or those of the whole rule if the list is empty. -/
def capturesOr (node : Node) (field : CaptureField) (entries : List (String × RuleDef)) :
    List (String × Node) :=
  if entries.isEmpty then node.captures else node.capturesOf field entries

/-- The captures of the pattern that opens a region. -/
def beginCaptures (node : Node) : List (String × Node) :=
  node.capturesOr .begin node.rule.beginCaptures

/-- The captures of the pattern that closes a region. -/
def endCaptures (node : Node) : List (String × Node) := node.capturesOr .end node.rule.endCaptures

/-- The captures of the pattern that further lines have to match. -/
def whileCaptures (node : Node) : List (String × Node) :=
  node.capturesOr .while node.rule.whileCaptures

/-- A repository, with the entries of the rule's own one in place of those of the same name. -/
def extend (node : Node) (repository : Repository) : Repository :=
  match node.rule.repository with
  | none => repository
  | some entries => (namedNodes node.site .entry entries).foldl
      (fun repository (name, entry) => repository.insert name entry) repository

end Node

/-- A grammar whose rules can be included: its repository also has the rule that stands for
the grammar itself, and the one for the grammar that everything started from. -/
structure LinkedGrammar where
  scopeName : String
  repository : Repository
  /-- The rules injected into the grammar, with the selectors that say where. -/
  injections : List (String × Node)
  injectionSelector : Option String

namespace LinkedGrammar

/-- The name of the entry for the grammar itself. -/
def selfKey : String := "$self"

/-- The name of the entry for the grammar that everything started from. -/
def baseKey : String := "$base"

/-- The rule that stands for a grammar. -/
def selfNode (grammar : GrammarDef) : Node :=
  ⟨⟨grammar.scopeName, [.self]⟩, { name := some grammar.scopeName, patterns := grammar.patterns }⟩

/-- Links a grammar. Without a base it is its own. -/
def ofDef (grammar : GrammarDef) (base : Option Node) : LinkedGrammar :=
  let site : Site := ⟨grammar.scopeName, []⟩
  let self := selfNode grammar
  let entries : Repository := namedNodes site .entry grammar.repository
  { scopeName := grammar.scopeName
    repository := (entries.insert selfKey self).insert baseKey (base.getD self)
    injections := namedNodes site .injection grammar.injections
    injectionSelector := grammar.injectionSelector }

/-- The rule that stands for the grammar. -/
def self? (grammar : LinkedGrammar) : Option Node := grammar.repository.find? selfKey

/-- The rule that stands for the grammar that everything started from. -/
def base? (grammar : LinkedGrammar) : Option Node := grammar.repository.find? baseKey

@[simp] theorem self?_ofDef (grammar : GrammarDef) (base : Option Node) :
    (ofDef grammar base).self? = some (selfNode grammar) := by
  simp [ofDef, self?, selfKey, baseKey]

@[simp] theorem base?_ofDef (grammar : GrammarDef) (base : Option Node) :
    (ofDef grammar base).base? = some (base.getD (selfNode grammar)) := by
  simp [ofDef, base?]

end LinkedGrammar

end ScopeTokenizer.Grammar
