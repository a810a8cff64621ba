import ScopeTokenizer.Regex.CharSet
import ScopeTokenizer.Unicode.Script

/-!
# Named properties

The sets that `\p{name}` and `[:name:]` stand for. Case, blanks, hyphens and underscores
of a name make no difference in the first form; the second form knows only a few names.
-/

namespace ScopeTokenizer.Regex.Property

open Unicode

/-- The form in which names are compared. -/
def normal (name : List Char) : List Char :=
  (name.filter fun c => !(c == ' ' || c == '-' || c == '_')).map Char.toLower

/-- The categories of one kind, each kind a union of categories whose short names share
their first letter. -/
def categories (letter : Char) : CharSet :=
  .unionAll (Category.all.filterMap fun (short, _, table) =>
    if short.toList.head? = some letter then some (.listed table) else none)

/-- White space, control characters and code points that no character has. -/
def unprinted : CharSet :=
  .union .blank (.union (.listed Category.control)
    (.union (.listed Category.unassigned) (.listed Category.surrogate)))

/-- Whatever leaves a mark when it is printed. -/
def graph : CharSet := .compl unprinted

/-- Punctuation, and the ASCII symbols that are used like it. -/
def punctuation : CharSet :=
  .union (categories 'P') (.unionAll ("$+<=>^`|~".toList.map fun c => .single c.toNat))

/-- The classes that bracket expressions know by name. -/
def bracketNames : List (String × CharSet) := [
  ("alnum", .union (.listed Derived.alphabetic) .digit),
  ("alpha", .listed Derived.alphabetic),
  ("blank", .union (.listed Category.spaceSeparator) (.single 0x09)),
  ("cntrl", .listed Category.control),
  ("digit", .digit),
  ("graph", graph),
  ("lower", .listed Derived.lowercase),
  ("print", .union graph (.listed Category.spaceSeparator)),
  ("punct", punctuation),
  ("space", .blank),
  ("upper", .listed Derived.uppercase),
  ("xdigit", .hexDigit),
  ("ascii", .ascii),
  ("word", .word)]

/-- The kinds of categories. -/
def kindNames : List (String × Char) := [
  ("L", 'L'), ("Letter", 'L'), ("M", 'M'), ("Mark", 'M'), ("CombiningMark", 'M'),
  ("N", 'N'), ("Number", 'N'), ("P", 'P'), ("Punctuation", 'P'), ("S", 'S'), ("Symbol", 'S'),
  ("Z", 'Z'), ("Separator", 'Z'), ("C", 'C'), ("Other", 'C')]

/-- Upper-case, lower-case and title-case letters. -/
def casedLetter : CharSet :=
  .union (.listed Category.uppercaseLetter)
    (.union (.listed Category.lowercaseLetter) (.listed Category.titlecaseLetter))

/-- Every name with its set. The first of equal names counts. -/
def names : List (String × CharSet) :=
  bracketNames ++
  [("Any", .all), ("Assigned", .compl (.listed Category.unassigned)), ("LC", casedLetter),
    ("CasedLetter", casedLetter)] ++
  kindNames.map (fun (name, letter) => (name, categories letter)) ++
  Category.all.flatMap (fun (short, long, table) =>
    [(short, .listed table), (long, .listed table)]) ++
  Derived.all.map (fun (name, table) => (name, .listed table)) ++
  Script.all.flatMap (fun (short, long, table) => [(short, .listed table), (long, .listed table)])

/-- The set of a name, in a list of names that are compared in their normal form. -/
def named? (name : List Char) : Option CharSet :=
  (names.find? fun entry => normal entry.1.toList = normal name).map (·.2)

/-- The set of a name in a bracket expression. -/
def bracketNamed? (name : List Char) : Option CharSet :=
  (bracketNames.find? fun entry => entry.1.toList = name).map (·.2)

end ScopeTokenizer.Regex.Property
