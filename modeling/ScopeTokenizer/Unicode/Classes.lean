import ScopeTokenizer.Unicode.Category
import ScopeTokenizer.Unicode.Derived

/-!
# Character classes

The classes of characters that selectors, patterns and scope texts are built from.
Each class has a direct answer for ASCII, where nearly all text lies, and asks the
tables for the rest.
-/

namespace ScopeTokenizer.Unicode

/-- The ASCII digits. -/
def isAsciiDigit (c : Char) : Bool := '0' ≤ c && c ≤ '9'

/-- The hexadecimal digits. -/
def isAsciiHexDigit (c : Char) : Bool :=
  isAsciiDigit c || ('a' ≤ c && c ≤ 'f') || ('A' ≤ c && c ≤ 'F')

/-- ASCII letters. -/
def isAsciiLetter (c : Char) : Bool := ('a' ≤ c && c ≤ 'z') || ('A' ≤ c && c ≤ 'Z')

/-- Whether a character is encoded in one byte. -/
def isAscii (c : Char) : Bool := c.toNat < 128

/-- White space: separators of every kind and the spacing control characters. -/
def isBlank (c : Char) : Bool :=
  if isAscii c then c == ' ' || ('\x09' ≤ c && c ≤ '\x0d')
  else Derived.whiteSpace.contains c.toNat

/-- Decimal digits of any script. -/
def isDigit (c : Char) : Bool :=
  if isAscii c then isAsciiDigit c else Category.decimalNumber.contains c.toNat

/-- Marks, which combine with the character before them. -/
def isMark (code : Nat) : Bool :=
  Category.nonspacingMark.contains code || Category.spacingMark.contains code ||
    Category.enclosingMark.contains code

/-- Word characters: alphabetic characters, marks, decimal digits and connectors such
as the underscore. -/
def isWord (c : Char) : Bool :=
  if isAscii c then isAsciiLetter c || isAsciiDigit c || c == '_'
  else Derived.alphabetic.contains c.toNat || isMark c.toNat ||
    Category.decimalNumber.contains c.toNat || Category.connectorPunctuation.contains c.toNat

theorem toNat_of_letter_or_digit {c : Char} (known : isAsciiLetter c || isAsciiDigit c) :
    48 ≤ c.toNat ∧ c.toNat ≤ 122 := by
  simp only [isAsciiLetter, isAsciiDigit, Bool.or_eq_true, Bool.and_eq_true, decide_eq_true_eq,
    Char.le_def, UInt32.le_iff_toNat_le, Char.toNat_val, Char.reduceToNat] at known
  omega

end ScopeTokenizer.Unicode
