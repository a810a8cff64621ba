import ScopeTokenizer.Pattern.Source
import ScopeTokenizer.Regex.Expr

/-!
# Matching

An expression is matched by backtracking: it is given the state of the match so far, and
what remains to be matched behind it, as a function from states. It tries its ways of
matching in order until the rest succeeds.
-/

namespace ScopeTokenizer.Regex

open Pattern Unicode

/-- The text that is searched, and the position that the search started from. -/
structure Subject where
  text : Array Char
  searchStart : Nat

/-- How far a match has come. -/
structure State where
  position : Nat
  /-- Where the match begins. -/
  start : Nat
  /-- No text from here on may be taken. -/
  limit : Nat
  /-- What the groups captured, the first one at index zero. -/
  captures : Array (Option Span)

/-- Matches the rest of an expression. -/
abbrev Rest := State → Option State

/-- Matches an expression and what follows it. -/
abbrev Step := State → Rest → Option State

namespace State

/-- The state at another position. -/
def moveTo (state : State) (position : Nat) : State := { state with position }

/-- What a group captured. -/
def capture? (state : State) (group : Nat) : Option Span :=
  if group = 0 then none else (state.captures[group - 1]?).join

/-- The state after a group has captured. -/
def withCapture (state : State) (group : Nat) (span : Span) : State :=
  if group = 0 then state
  else { state with captures := state.captures.setIfInBounds (group - 1) (some span) }

end State

namespace Subject

/-- The character at a position. -/
def char? (subject : Subject) (position : Nat) : Option Char := subject.text[position]?

/-- The character before a position. -/
def charBefore? (subject : Subject) (position : Nat) : Option Char :=
  if position = 0 then none else subject.char? (position - 1)

/-- Whether a position lies between a character of a set and one outside of it. -/
def atBoundary (subject : Subject) (set : CharSet) (position : Nat) : Bool :=
  (subject.charBefore? position).any set.contains != (subject.char? position).any set.contains

/-- Whether an anchor holds at a position. -/
def holdsAt (subject : Subject) (position : Nat) : Anchor → Bool
  | .textStart => position == 0
  | .textEnd => position == subject.text.size
  | .lastLineEnd => position == subject.text.size ||
      (position + 1 == subject.text.size && subject.char? position == some '\n')
  | .lineStart => position == 0 ||
      (subject.charBefore? position == some '\n' && position != subject.text.size)
  | .lineEnd => position == subject.text.size || subject.char? position == some '\n'
  | .searchStart => position == subject.searchStart
  | .boundary set => subject.atBoundary set position
  | .noBoundary set => !subject.atBoundary set position

/-- The end of the text from a position on whose case folding is the given one. No
character folds to nothing, so `steps` need not be larger than the folding is long. -/
def foldedEnd? (subject : Subject) (limit : Nat) : Nat → List Char → Nat → Option Nat
  | _, [], position => some position
  | 0, _ :: _, _ => none
  | steps + 1, c :: image, position =>
    match subject.char? position with
    | none => none
    | some d =>
      let folding := fold d
      if position < limit && folding.isPrefixOf (c :: image) then
        subject.foldedEnd? limit steps ((c :: image).drop folding.length) (position + 1)
      else none

/-- Whether two characters count as the same. -/
def sameChar (anyCase : Bool) (c d : Char) : Bool :=
  c == d || (anyCase && fold c == fold d)

/-- Whether the text at a position repeats a stretch of it. -/
def repeatsAt (subject : Subject) (anyCase : Bool) (span : Span) (position : Nat) : Bool :=
  let length := span.2 - span.1
  let stretch := (subject.text.extract span.1 span.2).toList
  let other := (subject.text.extract position (position + length)).toList
  stretch.length == other.length &&
    (stretch.zip other).all fun (c, d) => sameChar anyCase c d

end Subject

/-- Takes one character that passes a test. -/
def takeChar (subject : Subject) (passes : Char → Bool) : Step := fun state rest =>
  match subject.char? state.position with
  | some c =>
    if state.position < state.limit && passes c then rest (state.moveTo (state.position + 1))
    else none
  | none => none

/-- Goes on in one way, or else in another one. -/
def tryBoth (first second : Rest) : Rest := fun state =>
  match first state with
  | some last => some last
  | none => second state

/-- Repeats a step at least `low` times and at most `more` times beyond that. A repetition
that takes no text beyond the required ones is the last one. -/
def iterate (step : Step) (greedy : Bool) : Nat → Nat → Step
  | low + 1, more => fun state rest => step state fun next => iterate step greedy low more next rest
  | 0, 0 => fun state rest => rest state
  | 0, more + 1 => fun state rest =>
    let again : Rest := fun state => step state fun next =>
      if next.position = state.position then rest next
      else iterate step greedy 0 more next rest
    if greedy then tryBoth again rest state else tryBoth rest again state

/-- How many times a step that takes text can be repeated at most. -/
def State.room (state : State) : Nat := state.limit - state.position + 1

/-- The numbers of characters to step back from a position for an expression of some width. -/
def stepsBack (width : Width) (position : Nat) : List Nat :=
  List.range' width.low (min (width.high.getD position) position + 1 - width.low)

namespace Expr

/-- Matches an expression, where `call` matches the groups that it calls. -/
def run (subject : Subject) (call : Nat → Step) : Expr → Step
  | empty => fun state rest => rest state
  | fail => fun _ _ => none
  | literal c => takeChar subject (· == c)
  | set chars => takeChar subject chars.contains
  | folded image => fun state rest =>
    (subject.foldedEnd? state.limit image.length image state.position).bind fun last =>
      rest (state.moveTo last)
  | seq first second => fun state rest =>
    first.run subject call state fun next => second.run subject call next rest
  | alt first second => fun state rest =>
    tryBoth (first.run subject call · rest) (second.run subject call · rest) state
  | group number body => fun state rest =>
    body.run subject call state fun next =>
      rest (next.withCapture number (state.position, next.position))
  | repeated low high greedy body => fun state rest =>
    match high with
    | some high => iterate (body.run subject call) greedy low (high - low) state rest
    | none => iterate (body.run subject call) greedy low state.room state rest
  | atomic body => fun state rest => (body.run subject call state some).bind rest
  | look negative body => fun state rest =>
    match body.run subject call state some with
    | some next => if negative then none else rest (next.moveTo state.position)
    | none => if negative then rest state else none
  | behind negative body => fun state rest =>
    let found := (stepsBack body.width state.position).findSome? fun count =>
      body.run subject call
        { state with position := state.position - count, limit := state.position }
        fun next => if next.position = state.position then some next else none
    match found with
    | some next => if negative then none else rest { next with limit := state.limit }
    | none => if negative then rest state else none
  | anchor condition => fun state rest =>
    if subject.holdsAt state.position condition then rest state else none
  | keep => fun state rest => rest { state with start := state.position }
  | backref groups anyCase => fun state rest =>
    let span := (groups.filterMap state.capture?).find? fun span =>
      state.position + (span.2 - span.1) ≤ state.limit &&
        subject.repeatsAt anyCase span state.position
    span.bind fun span => rest (state.moveTo (state.position + (span.2 - span.1)))
  | Expr.call number => call number
  | conditional test yes no => fun state rest =>
    match test.run subject call state some with
    | some next => yes.run subject call next rest
    | none => no.run subject call state rest
  | captured groups => fun state rest =>
    if groups.any fun group => (state.capture? group).isSome then rest state else none
  | absent body => fun state rest =>
    let step : Step := fun state rest =>
      if (body.run subject call state some).isSome then none
      else takeChar subject (fun _ => true) state rest
    iterate step true 0 state.room state rest

/-- Calls of groups may be nested this deep; deeper ones fail. -/
def maxCalls : Nat := 24

/-- Matches a group of an expression, in which calls may be nested so deep. -/
def runGroup (whole : Expr) (subject : Subject) : Nat → Nat → Step
  | 0, _ => fun _ _ => none
  | depth + 1, number =>
    let target := if number = 0 then some whole else whole.group? number
    match target with
    | some expr => expr.run subject (whole.runGroup subject depth)
    | none => fun _ _ => none

/-- Matches an expression with a number of groups at a position. -/
def matchAt (expr : Expr) (groups : Nat) (subject : Subject) (position : Nat) : Option Captures :=
  let state : State :=
    { position, start := position, limit := subject.text.size,
      captures := Array.replicate groups none }
  (expr.run subject (expr.runGroup subject maxCalls) state some).map fun last =>
    some (min last.start last.position, last.position) :: last.captures.toList

end Expr

end ScopeTokenizer.Regex
