import ScopeTokenizer.Pattern.Engine

/-!
# Pattern sets

An ordered list of patterns that are searched together. The match that begins first wins,
and among matches that begin at one place that of the pattern which comes first. Patterns
that cannot be compiled are left out.
-/

namespace ScopeTokenizer.Pattern

variable {α : Type} {engine : Engine}

/-- A compiled pattern of a set. -/
structure Member (engine : Engine) (α : Type) where
  /-- The place of the pattern in the list that the set was built from. -/
  index : Nat
  /-- What the pattern is for. -/
  label : α
  pattern : engine.Compiled

/-- A set of patterns, each with a label. -/
structure PatternSet (engine : Engine) (α : Type) where
  /-- The labels of all patterns, those that were left out included. -/
  labels : List α
  members : List (Member engine α)

/-- A match of a set. -/
structure SetMatch (α : Type) where
  label : α
  /-- The place of the pattern in the list that the set was built from. -/
  index : Nat
  start : Nat
  stop : Nat
  /-- The whole match comes first. -/
  captures : Captures
  deriving DecidableEq

/-- What is wrong with the patterns of a set. -/
inductive SetProblem (α : Type) where
  /-- A pattern cannot be compiled. -/
  | invalid (label : α)
  /-- So many patterns can be compiled each on its own, and yet not as a set. -/
  | incompatible (count : Nat)

namespace PatternSet

/-- Compiles patterns as members of a set, in which all groups capture. -/
def compileAll? (patterns : List ((α × String) × Nat)) : Option (List (Member engine α)) :=
  patterns.mapM fun ((label, text), index) =>
    (engine.compile? true text).map fun pattern => ⟨index, label, pattern⟩

/-- Whether a pattern can be compiled on its own, where groups without a name capture only
if no group has one. -/
def compilesAlone (engine : Engine) (text : String) : Bool := (engine.compile? false text).isSome

/-- Builds a set, with the problems that were met. If some pattern cannot be compiled, each
is tried on its own to find out which to leave out. -/
def ofList (patterns : List (α × String)) : PatternSet engine α × List (SetProblem α) :=
  let labels := patterns.map (·.1)
  let indexed := patterns.zipIdx
  match compileAll? indexed with
  | some members => (⟨labels, members⟩, [])
  | none =>
    let valid := indexed.filter fun entry => compilesAlone engine entry.1.2
    let invalid := patterns.filter fun entry => !compilesAlone engine entry.2
    let problems := invalid.map fun entry => SetProblem.invalid entry.1
    match compileAll? valid with
    | some members => (⟨labels, members⟩, problems)
    | none => (⟨labels, []⟩, problems ++ [.incompatible valid.length])

/-- How many patterns there are, those that were left out included. -/
def size (set : PatternSet engine α) : Nat := set.labels.length

/-- A set, described by its size. -/
def describe (set : PatternSet engine α) : String :=
  let size := set.size
  s!"PatternSet({size} rules)"

/-- The match of the first member that matches at a position. -/
def matchAt (text : Array Char) (searchStart position : Nat) :
    List (Member engine α) → Option (SetMatch α)
  | [] => none
  | member :: members =>
    match engine.matchAt member.pattern text searchStart position with
    | some captures =>
      let span := (captures.head?.join).getD (position, position)
      some ⟨member.label, member.index, span.1, span.2, captures⟩
    | none => matchAt text searchStart position members

/-- The first match at one of `count` positions from `position` on. -/
def searchFrom (members : List (Member engine α)) (text : Array Char) (searchStart : Nat) :
    Nat → Nat → Option (SetMatch α)
  | 0, _ => none
  | count + 1, position =>
    match matchAt text searchStart position members with
    | some found => some found
    | none => searchFrom members text searchStart count (position + 1)

/-- Searches a line from a position, which is taken to be the end if it lies beyond it.
What comes before the position is not searched, but patterns may look at it. -/
def findAt (set : PatternSet engine α) (line : Line) (position : Nat) : Option (SetMatch α) :=
  let start := min position line.length
  searchFrom set.members line.chars start (line.length + 1 - start) start

@[simp] theorem matchAt_nil (text : Array Char) (searchStart position : Nat) :
    matchAt text searchStart position ([] : List (Member engine α)) = none := rfl

/-- A set without members never matches. -/
theorem searchFrom_nil (text : Array Char) (searchStart count position : Nat) :
    searchFrom ([] : List (Member engine α)) text searchStart count position = none := by
  induction count generalizing position with
  | zero => rfl
  | succ count ih => simp [searchFrom, ih]

end PatternSet

end ScopeTokenizer.Pattern
