import ScopeTokenizer.Text.Split

/-!
# Sets of code points

A set of code points kept as inclusive ranges, with its textual form: ranges written
as `41-5a` or `5f`, in hexadecimal, separated by blanks.
-/

namespace ScopeTokenizer.Unicode

/-- A set of code points, given by inclusive ranges. -/
structure RangeTable where
  ranges : List (Nat × Nat)

/-- The number written by hexadecimal digits. -/
def hexNumber (digits : List Char) : Nat :=
  digits.foldl (fun n c =>
    n * 16 + (if c.isDigit then c.toNat - '0'.toNat else c.toNat - 'a'.toNat + 10)) 0

namespace RangeTable

/-- Whether a code point lies in one of the ranges. -/
def contains (table : RangeTable) (code : Nat) : Bool :=
  table.ranges.any fun (low, high) => low ≤ code && code ≤ high

/-- One range: two numbers joined by a hyphen, or a single number. -/
def rangeOfText (text : List Char) : Nat × Nat :=
  match Text.splitFirst? '-' text with
  | some (low, high) => (hexNumber low, hexNumber high)
  | none => (hexNumber text, hexNumber text)

/-- Reads ranges that are separated by blanks. -/
def ofText (text : String) : RangeTable :=
  ⟨(Text.words (fun c => c == ' ' || c == '\n') text.toList).map rangeOfText⟩

@[simp] theorem contains_mk_cons (low high code : Nat) (ranges : List (Nat × Nat)) :
    contains ⟨(low, high) :: ranges⟩ code =
      ((low ≤ code && code ≤ high) || contains ⟨ranges⟩ code) := rfl

end RangeTable

end ScopeTokenizer.Unicode
