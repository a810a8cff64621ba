import ScopeTokenizer.Unicode.Category
import ScopeTokenizer.Unicode.Derived

/-!
# Quoted text

Text between quotes in which nothing is hidden: quotes, backslashes and control characters
are escaped, and so are the characters that cannot be printed on their own.
-/

namespace ScopeTokenizer.Text

open Unicode

/-- Whether a character attaches to the one before it. -/
def attaches (code : Nat) : Bool :=
  Category.nonspacingMark.contains code || Category.enclosingMark.contains code ||
    Derived.attaching.contains code

/-- The categories of characters that are not printed. -/
def hiddenTables : List RangeTable := [
  Category.control, Category.format, Category.surrogate, Category.privateUse,
  Category.unassigned, Category.lineSeparator, Category.paragraphSeparator,
  Category.spaceSeparator]

/-- Whether a character is printed as itself. -/
def isPrinted (c : Char) : Bool :=
  if c.toNat < 128 then 32 ≤ c.toNat && c.toNat < 127
  else !attaches c.toNat && hiddenTables.all fun table => !table.contains c.toNat

/-- The characters that have an escape of their own. -/
def shortEscapes : List (Char × List Char) := [
  ('\x00', ['\\', '0']), ('\t', ['\\', 't']), ('\r', ['\\', 'r']), ('\n', ['\\', 'n']),
  ('"', ['\\', '"']), ('\\', ['\\', '\\'])]

/-- The escape of a character by its number. -/
def numberEscape (c : Char) : List Char :=
  ['\\', 'u', '\x7b'] ++ Nat.toDigits 16 c.toNat ++ ['\x7d']

/-- A character as it is written between quotes. -/
def quoteChar (c : Char) : List Char :=
  match shortEscapes.lookup c with
  | some escape => escape
  | none => if isPrinted c then [c] else numberEscape c

/-- A text in quotes. -/
def quote (text : String) : String :=
  String.ofList ('"' :: text.toList.flatMap quoteChar ++ ['"'])

/-- A list in brackets, of texts in quotes. -/
def quoteList (texts : List String) : String :=
  let inner := ", ".intercalate (texts.map quote)
  s!"[{inner}]"

end ScopeTokenizer.Text
