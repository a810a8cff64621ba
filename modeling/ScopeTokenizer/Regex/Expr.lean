import ScopeTokenizer.Regex.CharSet

/-!
# Regular expressions

The abstract syntax of patterns. Expressions are matched by backtracking, so that the
order of alternatives and the greed of repetitions belong to their meaning.
-/

namespace ScopeTokenizer.Regex

/-- A condition on a position that takes no text. -/
inductive Anchor where
  /-- The start of the text. -/
  | textStart
  /-- The end of the text. -/
  | textEnd
  /-- The end of the text, or before a line feed that ends it. -/
  | lastLineEnd
  /-- The start of the text, or behind a line feed that does not end it. -/
  | lineStart
  /-- The end of the text, or before a line feed. -/
  | lineEnd
  /-- The position that the search started from. -/
  | searchStart
  /-- Between a character of a set and one outside of it, or outside of the text. -/
  | boundary (chars : CharSet)
  /-- Any position that is no such boundary. -/
  | noBoundary (chars : CharSet)

/-- A regular expression. -/
inductive Expr where
  /-- Matches without taking text. -/
  | empty
  /-- Never matches. -/
  | fail
  | literal (c : Char)
  | set (chars : CharSet)
  /-- Matches text with the given case folding. -/
  | folded (image : List Char)
  | seq (first second : Expr)
  | alt (first second : Expr)
  /-- Captures what its body takes. -/
  | group (number : Nat) (body : Expr)
  /-- Repeats its body, as often as it can if it is greedy, and else as seldom. -/
  | repeated (low : Nat) (high : Option Nat) (greedy : Bool) (body : Expr)
  /-- Matches as its body does at first, and never in another way. -/
  | atomic (body : Expr)
  /-- Tests the text ahead. -/
  | look (negative : Bool) (body : Expr)
  /-- Tests the text behind. -/
  | behind (negative : Bool) (body : Expr)
  | anchor (condition : Anchor)
  /-- Lets the match begin here. -/
  | keep
  /-- Matches what one of several groups captured. -/
  | backref (groups : List Nat) (anyCase : Bool)
  /-- Matches as a group does; as the whole expression does, for group zero. -/
  | call (group : Nat)
  /-- Matches as one of two expressions does, after a test that takes text. -/
  | conditional (test yes no : Expr)
  /-- Tests whether one of several groups has captured. -/
  | captured (groups : List Nat)
  /-- Takes text up to where its body would match. -/
  | absent (body : Expr)

/-- The number of characters that an expression takes: at least `low`, and at most `high`
if there is a limit. -/
structure Width where
  low : Nat
  high : Option Nat
  deriving DecidableEq, Repr

namespace Width

/-- Exactly so many characters. -/
def exactly (n : Nat) : Width := ⟨n, some n⟩

/-- Any number of characters. -/
def unknown : Width := ⟨0, none⟩

/-- One width after another one. -/
def add (first second : Width) : Width :=
  ⟨first.low + second.low, do return (← first.high) + (← second.high)⟩

/-- One of two widths. -/
def join (first second : Width) : Width :=
  ⟨min first.low second.low, do return max (← first.high) (← second.high)⟩

/-- A width several times. -/
def times (width : Width) (low : Nat) (high : Option Nat) : Width :=
  ⟨width.low * low,
    if width.high = some 0 ∨ high = some 0 then some 0
    else do return (← width.high) * (← high)⟩

/-- Whether there is only one number. -/
def isFixed (width : Width) : Bool := width.high == some width.low

end Width

namespace Expr

/-- The number of characters that an expression takes, as far as it can be told from its
form. -/
def width : Expr → Width
  | empty | fail | look _ _ | behind _ _ | anchor _ | keep | captured _ => .exactly 0
  | literal _ | set _ => .exactly 1
  | folded image => ⟨(image.length + 2) / 3, some image.length⟩
  | seq first second => first.width.add second.width
  | alt first second => first.width.join second.width
  | group _ body | atomic body => body.width
  | repeated low high _ body => body.width.times low high
  | backref _ _ | call _ | absent _ => .unknown
  | conditional test yes no => (test.width.add yes.width).join no.width

/-- Puts an expression behind another one. Texts that are matched in any case are joined,
since a single character may stand for several ones. -/
def append : Expr → Expr → Expr
  | empty, last => last
  | seq first second, last => append first (append second last)
  | folded image, folded other => folded (image ++ other)
  | folded image, seq (folded other) last => seq (folded (image ++ other)) last
  | first, empty => first
  | first, last => seq first last

/-- The alternatives that an expression is a choice between. -/
def alternatives : Expr → List Expr
  | alt first second => first :: second.alternatives
  | expr => [expr]

/-- The body of a group, with the group around it. -/
def group? (number : Nat) : Expr → Option Expr
  | group other body => if other = number then some (group other body) else body.group? number
  | seq first second | alt first second => (first.group? number).or (second.group? number)
  | repeated _ _ _ body | atomic body | look _ body | behind _ body | absent body =>
    body.group? number
  | conditional test yes no =>
    ((test.group? number).or (yes.group? number)).or (no.group? number)
  | _ => none

/-- Whether an expression may stand in a test of the text behind. Such a test cannot look
ahead in turn, and a negative one captures nothing. -/
def allowedBehind (negative : Bool) : Expr → Bool
  | look _ _ | anchor .textEnd | anchor .lastLineEnd => false
  | group _ body => !negative && body.allowedBehind negative
  | seq first second | alt first second =>
    first.allowedBehind negative && second.allowedBehind negative
  | repeated _ _ _ body | atomic body | behind _ body | absent body =>
    body.allowedBehind negative
  | conditional test yes no =>
    test.allowedBehind negative && yes.allowedBehind negative && no.allowedBehind negative
  | _ => true

/-- A test of the text behind. Alternatives of different but fixed widths are tests of their
own, tried in their order; otherwise less text is tried before more. -/
def lookBehind (negative : Bool) (body : Expr) : Expr :=
  let branches := body.alternatives
  let widths := branches.map width
  if widths.all Width.isFixed && widths.any (· ≠ body.width) then
    if negative then branches.foldr (fun branch rest => append (behind true branch) rest) empty
    else match branches with
      | [] => behind false body
      | first :: others => others.foldl (fun tests branch => alt tests (behind false branch))
          (behind false first)
  else behind negative body

@[simp] theorem append_empty_left (expr : Expr) : append empty expr = expr := by
  simp [append]

end Expr

end ScopeTokenizer.Regex
