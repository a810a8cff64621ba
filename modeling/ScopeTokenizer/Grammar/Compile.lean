import ScopeTokenizer.Grammar.Error
import ScopeTokenizer.Grammar.IncludeTarget
import ScopeTokenizer.Grammar.Library
import ScopeTokenizer.Grammar.Node
import ScopeTokenizer.Grammar.Rule

/-!
# Compiling rules

A rule is compiled when it is met for the first time, together with all that it refers to.
It gets its number before that, so that rules below it can refer back to it. An error leaves
behind what was compiled until then.
-/

namespace ScopeTokenizer.Grammar

open Pattern Scope Text

/-- What has been compiled of a grammar and of those that it includes. -/
structure Compilation where
  /-- The grammar that everything started from. -/
  host : LinkedGrammar
  table : RuleTable := {}
  /-- The numbers of the places that were met. -/
  numbers : List (Site × RuleId) := []
  /-- The other grammars that were included, as they were at that time. -/
  included : Keyed LinkedGrammar := []
  /-- How many rules are written in the host and in the included grammars. -/
  extent : Nat

/-- Compiles with the grammars of a library. What was done before an error is kept. -/
abbrev Compile := ReaderT Library (ExceptT GrammarError (StateM Compilation))

/-- Where a rule is read: the entries that it may include, and the grammar's name. -/
structure Surroundings where
  repository : Repository
  grammar : String

namespace LinkedGrammar

/-- The surroundings of the rules of a grammar. -/
def surroundings (grammar : LinkedGrammar) : Surroundings :=
  ⟨grammar.repository, grammar.scopeName⟩

end LinkedGrammar

namespace Compile

/-- The number that a place already has. -/
def number? (site : Site) : Compile (Option RuleId) := return (← get).numbers.lookup site

/-- The rule with a number. -/
def rule? (id : RuleId) : Compile (Option Rule) := return (← get).table.rule? id

/-- Takes the next number, and makes its rule. -/
def register (make : RuleId → Compile Rule) : Compile RuleId := do
  let (id, table) := (← get).table.reserve
  modify fun state => { state with table }
  let rule ← make id
  modify fun state => { state with table := state.table.put rule }
  return id

/-- Takes the next number for a place, and makes its rule, unless the place has a number. -/
def registerAt (site : Site) (make : RuleId → Compile Rule) : Compile RuleId := do
  match ← number? site with
  | some id => return id
  | none => register fun id => do
    modify fun state => { state with numbers := (site, id) :: state.numbers }
    make id

/-- The grammar with a scope name. It is looked up once, and keeps the base that it gets
then. -/
def grammar? (scope : String) (base : Option Node) : Compile (Option LinkedGrammar) := do
  let state ← get
  match state.included.find? scope with
  | some grammar => return some grammar
  | none =>
    if scope = state.host.scopeName then return some state.host
    else match (← read).find? scope with
      | none => return none
      | some definition =>
        let grammar := LinkedGrammar.ofDef definition base
        modify fun state => { state with
          included := state.included.insert scope grammar
          extent := state.extent + definition.size }
        return some grammar

section Rules

variable (compile : Surroundings → Node → Compile RuleId) (around : Surroundings)

/-- No pattern has more groups than this. -/
def maxGroup : Nat := 32767

/-- Whether a key of a list of captures is a number. -/
def isNumber (key : String) : Bool := !key.isEmpty && key.toList.all Unicode.isAsciiDigit

/-- The captures whose keys are numbers. The others are left out. -/
def numbered (captures : List (String × Node)) : Compile (List (Nat × Node)) :=
  (captures.filter fun entry => isNumber entry.1).mapM fun (key, node) => do
    let group := Source.groupNumber key.toList
    if group ≤ maxGroup then return (group, node)
    else throw (.captureOutOfRange key around.grammar)

/-- Compiles the rule of a capture, after the rule by which its text is read again. -/
def capture (node : Node) : Compile RuleId := do
  let inner ← if node.rule.hasPatterns then some <$> compile around node else pure none
  register fun id => return {
    id
    name := node.rule.name.map .ofText
    kind := .capture (node.rule.contentName.map .ofText) inner }

/-- Compiles captures to the list of their rules by group numbers. -/
def captures (entries : List (String × Node)) : Compile (List (Option RuleId)) := do
  let numbered ← numbered around entries
  let size := numbered.foldl (fun size entry => max size (entry.1 + 1)) 0
  numbered.foldlM (fun rules (group, node) => do
    return rules.set group (some (← capture compile around node))) (List.replicate size none)

/-- Compiles a pattern with its captures. -/
def matching (pattern : String) (entries : List (String × Node)) : Compile Matching :=
  return ⟨.ofText pattern, ← captures compile around entries⟩

/-- Compiles an entry of the repository of some surroundings, for an include with a text. -/
def entry (text : String) (surroundings : Surroundings) (name : String) : Compile RuleId :=
  match surroundings.repository.find? name with
  | some node => compile surroundings node
  | none => throw (.unresolvedInclude text around.grammar)

/-- Compiles an entry of the grammar with a scope name, for an include with a text. -/
def entryOf (text scope name : String) : Compile RuleId := do
  match ← grammar? scope (around.repository.find? LinkedGrammar.baseKey) with
  | some grammar => entry compile around text grammar.surroundings name
  | none => throw (.unresolvedInclude text around.grammar)

/-- Compiles what an include refers to. -/
def resolve (text : String) : Compile RuleId :=
  match IncludeTarget.ofText text with
  | .self => entry compile around text around LinkedGrammar.selfKey
  | .base => entry compile around text around LinkedGrammar.baseKey
  | .entry name => entry compile around text around name
  | .grammar scope => entryOf compile around text scope LinkedGrammar.selfKey
  | .entryOf scope name => entryOf compile around text scope name

/-- Compiles a list of patterns, each an include or a rule of its own. Rules that turn out
hollow are left out; a rule that is still being compiled is not. -/
def inner (nodes : List Node) : Compile Inner := do
  let ids ← nodes.filterMapM fun node => do
    let id ← match node.rule.includeName with
      | some text => resolve compile around text
      | none => compile around node
    if (← rule? id).any Rule.isHollow then return none else return some id
  return ⟨ids, ids.length != nodes.length⟩

/-- The end of a region that has none: a character that does not occur in texts. -/
def noEnd : String := "\uffff"

/-- The patterns of a rule that has no pattern of its own. A rule that is no more than an
include is tried as if the include were its only pattern. -/
def containerInner (node : Node) : Compile Inner :=
  let around := { around with repository := node.extend around.repository }
  match node.rule.includeName with
  | some text =>
    if node.rule.hasPatterns then inner compile around node.patterns
    else inner compile around [⟨node.site, { includeName := some text }⟩]
  | none => inner compile around node.patterns

/-- Compiles what a rule does. The first of its patterns that is given decides its kind. -/
def kind (node : Node) : Compile RuleKind := do
  let rule := node.rule
  let contentName := rule.contentName.map Template.ofText
  match rule.matchPattern, rule.beginPattern with
  | some pattern, _ => return .single (← matching compile around pattern node.captures)
  | none, none => return .container contentName (← containerInner compile around node)
  | none, some pattern =>
    let opening ← matching compile around pattern node.beginCaptures
    match rule.whilePattern with
    | some pattern =>
      let condition ← matching compile around pattern node.whileCaptures
      return .lines contentName opening condition (← inner compile around node.patterns)
    | none =>
      let closing ← matching compile around (rule.endPattern.getD noEnd) node.endCaptures
      return .region contentName opening closing rule.endPatternLast
        (← inner compile around node.patterns)

end Rules

/-- Compiles a rule, or finds the number of one already met. The rules that are being compiled
at one time stand at different places, so they are never nested deeper than there are
places. -/
def rule : Nat → Surroundings → Node → Compile RuleId
  | 0, _, node => registerAt node.site fun _ => throw .endless
  | depth + 1, around, node => registerAt node.site fun id => do
    return { id, name := node.rule.name.map .ofText, kind := ← kind (rule depth) around node }

/-- Compiles the rule that stands for the host grammar. -/
def root (depth : Nat) : Compile RuleId := do
  let host := (← get).host
  match host.self? with
  | some node => rule depth host.surroundings node
  | none => throw .missingScopeName

end Compile

namespace Compilation

/-- The compilation of a grammar before anything was compiled. -/
def start (grammar : GrammarDef) : Compilation :=
  { host := .ofDef grammar none, extent := grammar.size }

/-- The depth to which rules can be nested, with the grammars that may still be included. -/
def depth (compilation : Compilation) (library : Library) : Nat :=
  compilation.extent + library.size + 1

/-- Goes on compiling. -/
def run {α : Type} (compilation : Compilation) (library : Library) (compile : Compile α) :
    Except GrammarError α × Compilation :=
  ((compile.run library).run).run compilation

/-- Compiles the rule that stands for the host grammar, and all that it refers to. -/
def compileRoot (compilation : Compilation) (library : Library) :
    Except GrammarError RuleId × Compilation :=
  compilation.run library (Compile.root (compilation.depth library))

/-- Compiles a rule of some grammar. -/
def compileRule (compilation : Compilation) (library : Library) (around : Surroundings)
    (node : Node) : Except GrammarError RuleId × Compilation :=
  compilation.run library (Compile.rule (compilation.depth library) around node)

end Compilation

end ScopeTokenizer.Grammar
