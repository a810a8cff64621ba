import ScopeTokenizer.Regex.Match
import ScopeTokenizer.Regex.Parser
import ScopeTokenizer.Regex.Recursion

/-!
# Compiled patterns

A pattern that could be read, with the number of its groups.
-/

namespace ScopeTokenizer

open Regex Pattern

/-- A compiled pattern. -/
structure Regex where
  expr : Expr
  groups : Nat

namespace Regex

/-- Compiles a pattern, if it can be. Groups without a name capture always, or only where
no group has a name; in the latter case a pattern with names cannot refer to numbers. -/
def compile? (captureAll : Bool) (pattern : String) : Option Regex := do
  let source : Source := { rest := pattern.toList }
  let (_, first) ← (Parser.pattern.run {}).run source
  let namedOnly := !captureAll && !first.names.isEmpty
  let context : Context := { captureAll := !namedOnly, names := some first.names }
  let (expr, last) ← (Parser.pattern.run context).run source
  if last.mentioned.any (last.groups < ·) || (namedOnly && last.usesNumbers) then none
  else if (List.range (last.groups + 1)).any (Recursion.neverEnds expr last.groups) then none
  else some ⟨expr, last.groups⟩

/-- What a pattern captures when it matches at a position of a text, where the search began
at `searchStart`. The whole match comes first. -/
def matchAt (regex : Regex) (text : Array Char) (searchStart position : Nat) :
    Option Captures :=
  regex.expr.matchAt regex.groups ⟨text, searchStart⟩ position

end Regex

end ScopeTokenizer
