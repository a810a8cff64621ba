import ScopeTokenizer.Pattern.Source
import ScopeTokenizer.Text.Case

/-!
# Scope templates

The name that a rule gives to a scope may refer to the captures of the match that
produced it: `$1` stands for what the first group captured, `\x24{1:/downcase}` and
`\x24{1:/upcase}` for the same in another case.
-/

namespace ScopeTokenizer.Scope

open Pattern

/-- A change of case that a reference may ask for. -/
inductive CaseChange where
  | lower
  | upper
  deriving DecidableEq, Repr

/-- A reference to a capture. -/
structure Reference where
  group : Nat
  change : Option CaseChange
  deriving DecidableEq, Repr

namespace Reference

/-- Group numbers have to be smaller than this. -/
def limit : Nat := Nat.pow 2 64

/-- The changes of case with what ends a braced reference to them. -/
def endings : List (List Char × CaseChange) :=
  [(":/downcase\x7d".toList, .lower), (":/upcase\x7d".toList, .upper)]

/-- A group number at the front of a text, which has at least one digit and no more than
a machine word holds. -/
def number? (text : List Char) : Option (Nat × List Char) :=
  let digits := text.takeWhile Unicode.isAsciiDigit
  let number := Source.groupNumber digits
  if digits = [] ∨ limit ≤ number then none
  else some (number, text.dropWhile Unicode.isAsciiDigit)

/-- The ending that a braced reference has, and the text after it. -/
def ending? (text : List Char) : List (List Char × CaseChange) → Option (CaseChange × List Char)
  | [] => none
  | (ending, change) :: others =>
    if ending.isPrefixOf text then some (change, text.drop ending.length)
    else ending? text others

/-- The reference that follows a dollar sign, and the text after it. -/
def read? : List Char → Option (Reference × List Char)
  | [] => none
  | c :: rest =>
    if Unicode.isAsciiDigit c then
      (number? (c :: rest)).map fun (number, rest) => (⟨number, none⟩, rest)
    else if c = '\x7b' then
      match number? rest with
      | none => none
      | some (number, rest) =>
        (ending? rest endings).map fun (change, rest) => (⟨number, some change⟩, rest)
    else none

theorem length_number? {text rest : List Char} {number : Nat}
    (h : number? text = some (number, rest)) : rest.length ≤ text.length := by
  simp only [number?] at h
  split at h
  · simp at h
  · simp only [Option.some.injEq, Prod.mk.injEq] at h
    rw [← h.2]
    exact (List.dropWhile_suffix _).length_le

theorem length_ending? {text rest : List Char} {change : CaseChange}
    {endings : List (List Char × CaseChange)} (h : ending? text endings = some (change, rest)) :
    rest.length ≤ text.length := by
  induction endings with
  | nil => simp [ending?] at h
  | cons entry others ih =>
    obtain ⟨ending, kept⟩ := entry
    unfold ending? at h
    split at h
    · simp only [Option.some.injEq, Prod.mk.injEq] at h
      simp [← h.2]
    · exact ih h

/-- A reference leaves no more text than there was. -/
theorem length_read? {text rest : List Char} {reference : Reference}
    (h : read? text = some (reference, rest)) : rest.length ≤ text.length := by
  cases text with
  | nil => simp [read?] at h
  | cons c text =>
    simp only [read?] at h
    split at h
    · obtain ⟨⟨number, after⟩, found, equal⟩ := Option.map_eq_some_iff.1 h
      simp only [Prod.mk.injEq] at equal
      rw [← equal.2]
      exact length_number? found
    · split at h
      · split at h
        · simp at h
        · next number after found =>
          obtain ⟨⟨change, last⟩, ended, equal⟩ := Option.map_eq_some_iff.1 h
          simp only [Prod.mk.injEq] at equal
          have := length_ending? ended
          have := length_number? found
          rw [← equal.2, List.length_cons]
          omega
      · simp at h

/-- What a reference is replaced by: the captured text without leading dots, in the case
that is asked for. `none` if the group took no part in the match. -/
def value? (reference : Reference) (line : Line) (captures : Captures) : Option (List Char) :=
  match captures[reference.group]? with
  | some (some (first, last)) =>
    let text := (line.slice first last).dropWhile (· == '.')
    some (match reference.change with
      | none => text
      | some .lower => Text.lowerCase text
      | some .upper => Text.upperCase text)
  | _ => none

end Reference

/-- Whether a reference follows some dollar sign of a text. -/
def hasReference : List Char → Bool
  | [] => false
  | c :: rest => (c = '$' && (Reference.read? rest).isSome) || hasReference rest

/-- The name of a scope, possibly with references. -/
structure Template where
  text : String
  hasReference : Bool
  deriving DecidableEq, Repr

namespace Template

/-- The template with a given text. -/
def ofText (text : String) : Template := ⟨text, Scope.hasReference text.toList⟩

/-- Replaces the references of a text, from left to right. A reference to a group that
took no part stays as it is written, and text that was filled in is not read again. -/
def fill (line : Line) (captures : Captures) : List Char → List Char
  | [] => []
  | c :: rest =>
    if c = '$' then
      match h : Reference.read? rest with
      | none => '$' :: fill line captures rest
      | some (reference, after) =>
        have := Reference.length_read? h
        (match reference.value? line captures with
          | some value => value
          | none => '$' :: rest.take (rest.length - after.length)) ++ fill line captures after
    else c :: fill line captures rest
termination_by text => text.length
decreasing_by all_goals simp_wf <;> omega

/-- The name for a match on a line. -/
def resolve (template : Template) (line : Line) (captures : Captures) : String :=
  if template.hasReference then String.ofList (fill line captures template.text.toList)
  else template.text

end Template

end ScopeTokenizer.Scope
