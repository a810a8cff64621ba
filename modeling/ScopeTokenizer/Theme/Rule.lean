import ScopeTokenizer.Style.Font

/-!
# Theme rules

What a theme says about one scope, possibly under certain parent scopes only, and which
of two rules is the more specific one.
-/

namespace ScopeTokenizer.Theme

open Style

/-- The attributes that a rule sets. Colors are numbers of the theme's color map, and
zero leaves a color unset. -/
structure Look where
  font : Option Font := none
  foreground : Nat := 0
  background : Nat := 0
  deriving DecidableEq, Repr

/-- The attributes of `upper` where it sets them, and those of `lower` elsewhere. -/
def Look.over (upper lower : Look) : Look where
  font := upper.font.or lower.font
  foreground := if upper.foreground = 0 then lower.foreground else upper.foreground
  background := if upper.background = 0 then lower.background else upper.background

/-- A rule of a compiled theme. -/
structure Rule where
  /-- How many segments the rule's scope has. -/
  depth : Nat := 0
  /-- The scopes that have to enclose the rule's own, the closest first. -/
  parents : List String := []
  look : Look := {}
  deriving DecidableEq, Repr

namespace Rule

/-- Compares parent lists by the lengths of their names, from the closest on. The longer
name comes first. -/
def compareNames : List String → List String → Ordering
  | a :: as, b :: bs =>
    (compare b.utf8ByteSize a.utf8ByteSize).then (compareNames as bs)
  | _, _ => .eq

/-- The order of specificity, the most specific rule first: deeper scopes, then more
parents, then longer parents. -/
def compareSpecificity (a b : Rule) : Ordering :=
  (compare b.depth a.depth).then
    (if a.parents.length = b.parents.length then compareNames a.parents b.parents
    else compare b.parents.length a.parents.length)

/-- Sorts rules, the most specific first; equally specific ones keep their order. -/
def sortBySpecificity (rules : List Rule) : List Rule :=
  rules.mergeSort fun a b => (compareSpecificity a b).isLE

/-- A rule after another one for the same scope and the same parents. -/
def overwrite (rule : Rule) (depth : Nat) (look : Look) : Rule :=
  { rule with depth := max rule.depth depth, look := look.over rule.look }

end Rule

end ScopeTokenizer.Theme
