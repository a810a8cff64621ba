import ScopeTokenizer.Regex.Expr

/-!
# Recursion that never ends

A group may call itself, but a call that every match would have to make, or one that is
made again before any text was taken, could never come to an end.
-/

namespace ScopeTokenizer.Regex

namespace Expr

/-- The least number of characters that an expression takes, given those of the groups that
it calls. -/
def shortest (called : Nat → Nat) : Expr → Nat
  | literal _ | set _ => 1
  | folded image => (image.length + 2) / 3
  | seq first second => first.shortest called + second.shortest called
  | alt first second => min (first.shortest called) (second.shortest called)
  | group _ body | atomic body => body.shortest called
  | repeated low _ _ body => low * body.shortest called
  | call number => called number
  | conditional test yes no =>
    min (test.shortest called + yes.shortest called) (no.shortest called)
  | _ => 0

/-- The least number of characters that a group takes, looking through so many calls. -/
def shortestGroup (whole : Expr) : Nat → Nat → Nat
  | 0, _ => 0
  | depth + 1, number =>
    match whole.group? number with
    | some (group _ body) => body.shortest (whole.shortestGroup depth)
    | _ => 0

end Expr

/-- How an expression leads back into a group. -/
structure Recursion where
  /-- Every match does. -/
  always : Bool := false
  /-- It may do so before it has taken text. -/
  early : Bool := false

namespace Recursion

/-- One expression after another one. -/
def after (first second : Recursion) : Recursion :=
  ⟨first.always || second.always, first.early || second.early⟩

/-- One of two expressions. -/
def or (first second : Recursion) : Recursion :=
  ⟨first.always && second.always, first.early || second.early⟩

/-- An expression that need not match. -/
def sometimes (recursion : Recursion) : Recursion := { recursion with always := false }

/-- How an expression leads back into the group `target`. `head` says that no text was taken
since the group began, and `visited` lists the groups that are being looked at. -/
def ofExpr (target : Nat) (called : Nat → Nat) (enter : List Nat → Bool → Nat → Recursion) :
    Expr → List Nat → Bool → Recursion
  | .seq first second, visited, head =>
    (ofExpr target called enter first visited head).after
      (ofExpr target called enter second visited (head && first.shortest called == 0))
  | .alt first second, visited, head =>
    (ofExpr target called enter first visited head).or
      (ofExpr target called enter second visited head)
  | .group number body, visited, head =>
    if visited.contains number then {}
    else if number = target then ⟨true, head⟩
    else ofExpr target called enter body (number :: visited) head
  | .repeated low high _ body, visited, head =>
    if high = some 0 then {}
    else
      let recursion := ofExpr target called enter body visited head
      if low = 0 then recursion.sometimes else recursion
  | .atomic body, visited, head | .look _ body, visited, head | .behind _ body, visited, head =>
    ofExpr target called enter body visited head
  | .absent body, visited, head => (ofExpr target called enter body visited head).sometimes
  | .conditional test yes no, visited, head =>
    ((ofExpr target called enter test visited head).after
      (ofExpr target called enter yes visited (head && test.shortest called == 0))).or
      (ofExpr target called enter no visited head)
  | .call number, visited, head => enter visited head number
  | _, _, _ => {}

/-- How a call leads back into a group, looking through so many calls. -/
def ofCall (whole : Expr) (target : Nat) (called : Nat → Nat) :
    Nat → List Nat → Bool → Nat → Recursion
  | 0, _, _, _ => {}
  | depth + 1, visited, head, number =>
    if visited.contains number then {}
    else if number = target then ⟨true, head⟩
    else
      let enter := ofCall whole target called depth
      if number = 0 then ofExpr target called enter whole (0 :: visited) head
      else match whole.group? number with
        | some (.group _ body) => ofExpr target called enter body (number :: visited) head
        | _ => {}

/-- Whether a group of an expression calls itself without end. Group zero is the expression
itself. -/
def neverEnds (whole : Expr) (groups target : Nat) : Bool :=
  let called := whole.shortestGroup (groups + 1)
  let enter := ofCall whole target called (groups + 2)
  let recursion :=
    if target = 0 then ofExpr target called enter whole [] true
    else match whole.group? target with
      | some (.group _ body) => ofExpr target called enter body [] true
      | _ => {}
  recursion.always || recursion.early

end Recursion

end ScopeTokenizer.Regex
