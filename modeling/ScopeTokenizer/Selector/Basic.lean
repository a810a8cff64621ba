import ScopeTokenizer.Scope.Name

/-!
# Scope selectors

A selector says of a stack of scopes, the grammar's own first, whether something applies
in it. The atoms of selectors are paths: scopes that have to be found in the stack in
the given order, though not next to each other.
-/

namespace ScopeTokenizer.Selector

/-- A test of a stack of scopes. -/
inductive Matcher where
  /-- The scopes are found in this order. -/
  | path (scopes : List String)
  /-- All of the tests succeed. -/
  | all (matchers : List Matcher)
  /-- One of the tests succeeds. -/
  | any (matchers : List Matcher)
  /-- The test fails. -/
  | not (matcher : Matcher)

/-- When an injection is tried, in relation to the rules it is injected among. -/
inductive Priority where
  /-- Before the rules, where both match at one place. -/
  | left
  /-- After the rules. -/
  | neutral
  /-- After the rules and after the other injections. -/
  | right
  deriving DecidableEq, Repr

/-- Priorities as numbers, of which the lower goes first. -/
def Priority.rank : Priority → Int
  | left => -1
  | neutral => 0
  | right => 1

/-- A selector's test together with its priority. -/
structure Part where
  matcher : Matcher
  priority : Priority

/-- Whether scopes are found in a stack in the given order. Each is looked for behind the
one before it, and the first place that fits is taken. -/
def pathMatches : List String → List String → Bool
  | [], _ => true
  | _ :: _, [] => false
  | scope :: scopes, name :: names =>
    if Scope.matchesSelector name scope then pathMatches scopes names
    else pathMatches (scope :: scopes) names

namespace Matcher

mutual

/-- Whether the test succeeds on a stack of scopes. -/
def holds (names : List String) : Matcher → Bool
  | path scopes => pathMatches scopes names
  | all matchers => allHold names matchers
  | any matchers => anyHolds names matchers
  | not matcher => !matcher.holds names

/-- Whether all tests of a list succeed. -/
def allHold (names : List String) : List Matcher → Bool
  | [] => true
  | matcher :: matchers => matcher.holds names && allHold names matchers

/-- Whether some test of a list succeeds. -/
def anyHolds (names : List String) : List Matcher → Bool
  | [] => false
  | matcher :: matchers => matcher.holds names || anyHolds names matchers

end

theorem allHold_eq (names : List String) (matchers : List Matcher) :
    allHold names matchers = matchers.all (holds names) := by
  induction matchers with
  | nil => simp [allHold]
  | cons matcher matchers ih => simp [allHold, ih]

theorem anyHolds_eq (names : List String) (matchers : List Matcher) :
    anyHolds names matchers = matchers.any (holds names) := by
  induction matchers with
  | nil => simp [anyHolds]
  | cons matcher matchers ih => simp [anyHolds, ih]

end Matcher

@[simp] theorem pathMatches_nil (names : List String) : pathMatches [] names = true := by
  cases names <;> rfl

end ScopeTokenizer.Selector
