import ScopeTokenizer.Unicode.Classes

/-!
# Kinds of tokens

Editors treat comments, strings and regular expressions in their own way. The kind of
a token is read off its scope names.
-/

namespace ScopeTokenizer.Style

/-- The kind of text a token is. -/
inductive TokenKind where
  | other
  | comment
  | string
  | regex
  /-- Resets the kind to `other` where an unset kind would inherit. -/
  | embedded
  deriving DecidableEq, Repr

namespace TokenKind

/-- The three bits of a kind in packed metadata. -/
def bits : TokenKind → UInt32
  | other | embedded => 0
  | comment => 1
  | string => 2
  | regex => 4

/-- The kind that three bits stand for; unused bit patterns read as `other`. -/
def ofBits : UInt32 → TokenKind
  | 1 => comment
  | 2 => string
  | 4 => regex
  | _ => other

/-- The name of a kind. -/
def name : TokenKind → String
  | other => "Other"
  | comment => "Comment"
  | string => "String"
  | regex => "RegEx"
  | embedded => "MetaEmbedded"

/-- The words that decide a kind, in the order they are tried. -/
def words : List (List Char × TokenKind) :=
  [("comment".toList, comment), ("string".toList, string), ("regex".toList, regex),
    ("meta.embedded".toList, embedded)]

/-- Whether a word character follows. -/
def startsWord : List Char → Bool
  | [] => false
  | c :: _ => Unicode.isWord c

/-- The kind whose word stands at the front of a text and ends at a word boundary. -/
def atFront? (text : List Char) : Option TokenKind :=
  (words.find? fun (word, _) =>
    word.isPrefixOf text && !startsWord (text.drop word.length)).map (·.2)

/-- Looks for the first deciding word. Every deciding word begins and ends with a word
character, so it stands at a boundary when no word character touches it. -/
def find (afterWord : Bool) : List Char → TokenKind
  | [] => other
  | c :: rest =>
    match if afterWord then none else atFront? (c :: rest) with
    | some kind => kind
    | none => find (Unicode.isWord c) rest

/-- The kind implied by a scope name: that of the first `comment`, `string`, `regex` or
`meta.embedded` standing in it as a whole word. -/
def ofScope (scope : String) : TokenKind := find false scope.toList

@[simp] theorem ofBits_bits (kind : TokenKind) :
    ofBits kind.bits = if kind = embedded then other else kind := by
  cases kind <;> rfl

end TokenKind

end ScopeTokenizer.Style
