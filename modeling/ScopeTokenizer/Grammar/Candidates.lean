import ScopeTokenizer.Grammar.Rule

/-!
# Candidates

The patterns that a search inside a rule looks for. Containers do not take part themselves:
their rules do, in their place. A container that is met again adds nothing, so that
containers may include one another in cycles.
-/

namespace ScopeTokenizer.Grammar

open Pattern

/-- What a pattern of a search belongs to. -/
inductive Target where
  /-- The pattern by which a rule takes part. -/
  | rule (id : RuleId)
  /-- The end of the region that is open. -/
  | closing
  /-- The condition on further lines of the region that is open. -/
  | condition
  deriving DecidableEq, Repr

/-- A number for a target, from the far end of the numbers where it is no rule. -/
def Target.number : Target → Nat
  | rule id => id
  | closing => 0xffffffff
  | condition => 0xfffffffe

namespace RuleTable

/-- The rules that were found to take part, and the containers that were met. -/
structure Gathering where
  found : List (RuleId × Source) := []
  containers : List RuleId := []

/-- Adds the rules that take part for a rule, through at most `depth` nested containers.
Each container is met once, so there is no need for more than there are rules. -/
def gather (table : RuleTable) : Nat → Gathering → RuleId → Gathering
  | 0, gathering, _ => gathering
  | depth + 1, gathering, id =>
    match table.rule? id with
    | none => gathering
    | some rule =>
      match rule.leading? with
      | some source => { gathering with found := gathering.found ++ [(id, source)] }
      | none =>
        match rule.kind with
        | .container _ inner =>
          if gathering.containers.contains id then gathering
          else inner.patterns.foldl (gather table depth)
            { gathering with containers := id :: gathering.containers }
        | _ => gathering

/-- The rules that take part in a search inside a rule, in the order of their precedence. A
rule that matches once is searched for itself. -/
def taking (table : RuleTable) (id : RuleId) : List (RuleId × Source) :=
  match table.rule? id with
  | none => []
  | some rule =>
    match rule.kind with
    | .single matching => [(id, matching.pattern)]
    | _ => (rule.inner.patterns.foldl (table.gather (table.size + 1)) { containers := [id] }).found

/-- The patterns of a search inside a rule, where the given anchors may match. -/
def candidates (table : RuleTable) (id : RuleId) (anchors : Anchors) : List (RuleId × String) :=
  (table.taking id).map fun (id, source) => (id, source.resolveAnchors anchors)

end RuleTable

end ScopeTokenizer.Grammar
