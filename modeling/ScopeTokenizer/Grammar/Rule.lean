import ScopeTokenizer.Pattern.Source
import ScopeTokenizer.Scope.Template

/-!
# Compiled rules

Compiled rules refer to one another by number, so that they can be as recursive as the
grammar is. A table holds the rules of a grammar and of all that it includes.
-/

namespace ScopeTokenizer.Grammar

open Pattern Scope

/-- The number of a rule. Rules are numbered from one. -/
abbrev RuleId := Nat

/-- A pattern with the rules for its captures, by the numbers of the groups. -/
structure Matching where
  pattern : Source
  captures : List (Option RuleId)
  deriving DecidableEq, Repr

/-- The rules tried inside a rule. -/
structure Inner where
  patterns : List RuleId := []
  /-- Some rule was left out, since it turned out to be empty. -/
  incomplete : Bool := false
  deriving DecidableEq, Repr

/-- What a rule does. -/
inductive RuleKind where
  /-- Matches one pattern. -/
  | single (matching : Matching)
  /-- Groups other rules. -/
  | container (contentName : Option Template) (inner : Inner)
  /-- A region from one pattern to another one, which may be tried after the inner rules. -/
  | region (contentName : Option Template) (opening closing : Matching) (closingLast : Bool)
      (inner : Inner)
  /-- A region of lines, each of which has to match a pattern. -/
  | lines (contentName : Option Template) (opening condition : Matching) (inner : Inner)
  /-- Names the text of a capture, which may be read again by another rule. -/
  | capture (contentName : Option Template) (rule : Option RuleId)
  deriving DecidableEq, Repr

/-- A compiled rule. -/
structure Rule where
  id : RuleId
  /-- The scope of all the text that the rule takes. -/
  name : Option Template
  kind : RuleKind
  deriving DecidableEq, Repr

namespace Rule

/-- The scope of the text inside a region. -/
def contentName (rule : Rule) : Option Template :=
  match rule.kind with
  | .single _ => none
  | .container name _ | .region name _ _ _ _ | .lines name _ _ _ | .capture name _ => name

/-- The rules tried inside a rule. -/
def inner (rule : Rule) : Inner :=
  match rule.kind with
  | .container _ inner | .region _ _ _ _ inner | .lines _ _ _ inner => inner
  | .single _ | .capture _ _ => {}

/-- The pattern by which a rule takes part in a search. -/
def leading? (rule : Rule) : Option Source :=
  match rule.kind with
  | .single matching | .region _ matching _ _ _ | .lines _ matching _ _ => some matching.pattern
  | .container _ _ | .capture _ _ => none

/-- Whether nothing would be tried inside a rule although something was meant to be. -/
def isHollow (rule : Rule) : Bool := rule.inner.incomplete && rule.inner.patterns.isEmpty

/-- Whether a rule matches once and opens no region. -/
def isSingle (rule : Rule) : Bool :=
  match rule.kind with
  | .single _ => true
  | _ => false

/-- The scope of all the text that a rule takes, for a match on a line. -/
def nameFor (rule : Rule) (line : Line) (captures : Captures) : Option String :=
  rule.name.map fun name => name.resolve line captures

/-- The scope of the text inside a region, for a match on a line. -/
def contentNameFor (rule : Rule) (line : Line) (captures : Captures) : Option String :=
  rule.contentName.map fun name => name.resolve line captures

end Rule

/-- The rules compiled so far, the one with number 1 first. A place whose rule is not
compiled yet, or could not be, is empty. -/
structure RuleTable where
  slots : Array (Option Rule) := #[]
  deriving DecidableEq, Repr

namespace RuleTable

/-- The rule with a number. -/
def rule? (table : RuleTable) : RuleId → Option Rule
  | 0 => none
  | index + 1 => (table.slots[index]?).join

/-- Takes the next number, whose place stays empty. -/
def reserve (table : RuleTable) : RuleId × RuleTable :=
  (table.slots.size + 1, ⟨table.slots.push none⟩)

/-- Fills the place of a rule. -/
def put (table : RuleTable) (rule : Rule) : RuleTable :=
  ⟨table.slots.setIfInBounds (rule.id - 1) (some rule)⟩

/-- How many rules there are, those not compiled included. -/
def size (table : RuleTable) : Nat := table.slots.size

/-- How many rules are compiled. -/
def count (table : RuleTable) : Nat := table.slots.toList.countP Option.isSome

@[simp] theorem rule?_zero (table : RuleTable) : table.rule? 0 = none := rfl

@[simp] theorem size_reserve (table : RuleTable) : table.reserve.2.size = table.size + 1 := by
  simp [reserve, size]

@[simp] theorem size_put (table : RuleTable) (rule : Rule) : (table.put rule).size = table.size := by
  simp [put, size]

end RuleTable

end ScopeTokenizer.Grammar
