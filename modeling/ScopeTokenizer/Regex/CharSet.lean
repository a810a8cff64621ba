import ScopeTokenizer.Unicode.Classes
import ScopeTokenizer.Unicode.Folding

/-!
# Sets of characters

What a single character of a text may be: a range, a property, or a combination of such
sets by the operations that bracket expressions have.
-/

namespace ScopeTokenizer.Regex

open Unicode

/-- A set of characters. -/
inductive CharSet where
  | none
  /-- All code points from one up to another one. -/
  | range (low high : Nat)
  /-- Word characters. -/
  | word
  /-- Decimal digits. -/
  | digit
  /-- White space. -/
  | blank
  /-- The characters of a table. -/
  | listed (table : RangeTable)
  | union (first second : CharSet)
  | inter (first second : CharSet)
  | compl (set : CharSet)
  /-- The characters that differ at most in case from one of the set. -/
  | anyCase (set : CharSet)

namespace CharSet

/-- Whether a character belongs to a set. -/
def contains : CharSet → Char → Bool
  | none, _ => false
  | range low high, c => low ≤ c.toNat && c.toNat ≤ high
  | word, c => isWord c
  | digit, c => isDigit c
  | blank, c => isBlank c
  | listed table, c => table.contains c.toNat
  | union first second, c => first.contains c || second.contains c
  | inter first second, c => first.contains c && second.contains c
  | compl set, c => !set.contains c
  | anyCase set, c => set.contains c || (caseVariants c).any set.contains

/-- The set of one code point. -/
def single (code : Nat) : CharSet := range code code

/-- The set of all characters. -/
def all : CharSet := compl none

/-- The characters of one byte. -/
def ascii : CharSet := range 0 127

/-- The ASCII hexadecimal digits. -/
def hexDigit : CharSet := .union (range 0x30 0x39) (.union (range 0x41 0x46) (range 0x61 0x66))

/-- The characters that end a line, of which a carriage return followed by a line feed
counts as one end. -/
def lineEnd : CharSet := .union (range 0x0a 0x0d) (.union (single 0x85) (range 0x2028 0x2029))

/-- The characters that belong to one of several sets. -/
def unionAll (sets : List CharSet) : CharSet := sets.foldr union none

@[simp] theorem contains_unionAll (sets : List CharSet) (c : Char) :
    (unionAll sets).contains c = sets.any (·.contains c) := by
  induction sets with
  | nil => rfl
  | cons set sets ih =>
    simp only [unionAll, List.foldr_cons, contains, List.any_cons] at ih ⊢
    rw [ih]

end CharSet

end ScopeTokenizer.Regex
