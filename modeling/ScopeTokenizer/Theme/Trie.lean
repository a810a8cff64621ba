import ScopeTokenizer.Theme.Rule
import ScopeTokenizer.Text.Keyed
import ScopeTokenizer.Text.Split

/-!
# Tries of theme rules

The rules of a theme, arranged by the segments of their scopes. A node holds the rule
for its scope and the rules for its scope under certain parents. A new node starts with
the rules of the node above it, so that looking a scope up needs the deepest node on
its path only; for that to be right, rules are inserted shorter scopes first.
-/

namespace ScopeTokenizer.Theme

open Text

/-- A node of the trie, with the nodes below it by their segments. -/
structure Trie where
  /-- The rule without parents. -/
  main : Rule := {}
  /-- The rules with parents, in the order of their first insertion. -/
  parented : List Rule := []
  children : List (String × Trie) := []

/-- Drops an empty segment at the end. -/
def dropEmptyEnd : List String → List String
  | [] => []
  | [segment] => if segment = "" then [] else [segment]
  | segment :: rest => segment :: dropEmptyEnd rest

/-- The path of a scope: its segments between dots, without one that is empty and last. -/
def pathOf (scope : String) : List String := dropEmptyEnd (splitAt '.' scope)

namespace Trie

/-- Overwrites the first rule that has the given parents; without one, adds a rule whose
unset attributes are those of the rule without parents. -/
def insertParented (main : Rule) (depth : Nat) (parents : List String) (look : Look) :
    List Rule → List Rule
  | [] => [⟨depth, parents, look.over main.look⟩]
  | rule :: rules =>
    if rule.parents = parents then rule.overwrite depth look :: rules
    else rule :: insertParented main depth parents look rules

/-- Inserts a rule for the scope of the node itself. -/
def insertHere (node : Trie) (depth : Nat) (parents : List String) (look : Look) : Trie :=
  if parents = [] then { node with main := node.main.overwrite depth look }
  else { node with parented := insertParented node.main depth parents look node.parented }

/-- Inserts a rule for the scope that lies at the end of a path. -/
def insert (node : Trie) (depth : Nat) (path : List String) (parents : List String)
    (look : Look) : Trie :=
  match path with
  | [] => node.insertHere depth parents look
  | segment :: path =>
    let child := (Keyed.find? node.children segment).getD ⟨node.main, node.parented, []⟩
    { node with
      children := Keyed.insert segment (child.insert (depth + 1) path parents look) node.children }

/-- The rules that may apply to the scope at the end of a path, the most specific first. -/
def rulesAt (node : Trie) : List String → List Rule
  | [] => Rule.sortBySpecificity (node.main :: node.parented)
  | segment :: path =>
    match Keyed.find? node.children segment with
    | some child => child.rulesAt path
    | none => Rule.sortBySpecificity (node.main :: node.parented)

end Trie

end ScopeTokenizer.Theme
