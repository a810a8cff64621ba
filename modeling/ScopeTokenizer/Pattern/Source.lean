import ScopeTokenizer.Pattern.Anchors
import ScopeTokenizer.Text.Line

/-!
# Pattern sources

A pattern of a grammar before it is compiled. It is compiled only when a search needs
it, since its text depends on the anchors that may match there and, for the end of a
region, on what the begin of the region captured.
-/

namespace ScopeTokenizer.Pattern

/-- A stretch of a line, from one position up to another one. -/
abbrev Span := Nat × Nat

/-- The captures of a match: for each group, the stretch that it took part with. -/
abbrev Captures := List (Option Span)

/-- The text of a pattern, with what is known about its anchors and references. -/
structure Source where
  text : String
  /-- It has an anchor that may have to be replaced. -/
  hasAnchor : Bool
  /-- It has a reference by number. -/
  hasReference : Bool
  deriving DecidableEq, Repr

namespace Source

/-- What `\z` is replaced by. A line is searched with a line feed at its end, before which
`\z` itself would not match. -/
def lineEnd : List Char := "$(?!\\n)(?<!\\n)".toList

/-- The text of a piece, with `\z` replaced. -/
def pieceText : Piece → List Char
  | .escape 'z' => lineEnd
  | piece => piece.text

/-- Whether a piece is an anchor that may have to be replaced. -/
def isAnchor : Piece → Bool
  | .escape c => c = 'A' || c = 'G'
  | _ => false

/-- Whether a piece is a reference by number. -/
def isReference : Piece → Bool
  | .reference _ => true
  | _ => false

/-- The pattern with a given text. -/
def ofText (text : String) : Source :=
  let pieces := Piece.ofText text.toList
  { text := String.ofList (pieces.flatMap pieceText)
    hasAnchor := pieces.any isAnchor
    hasReference := pieces.any isReference }

/-- The text of a pattern where the given anchors may match. -/
def resolveAnchors (source : Source) (anchors : Anchors) : String :=
  if source.hasAnchor then anchors.resolve source.text else source.text

/-- The characters that are escaped in captured text: those that mean something in a
pattern, and white space. -/
def needsEscape (c : Char) : Bool := "-\\\x7b\x7d*+?|^$.,[]()#".toList.contains c || Unicode.isBlank c

/-- Writes text so that a pattern matches exactly it. -/
def escapeText (text : List Char) : List Char :=
  text.flatMap fun c => if needsEscape c then ['\\', c] else [c]

/-- The number that digits write. -/
def groupNumber (digits : List Char) : Nat :=
  digits.foldl (fun n c => n * 10 + (c.toNat - '0'.toNat)) 0

/-- The text of a piece, a reference being replaced by what its group captured on the
line; nothing, if the group took no part. -/
def referencedText (line : Line) (captures : Captures) : Piece → List Char
  | .reference digits =>
    match captures[groupNumber digits]? with
    | some (some (first, last)) => escapeText (line.slice first last)
    | _ => []
  | piece => piece.text

/-- The text of a pattern that refers to the captures of a match on a line. -/
def resolveReferences (source : Source) (line : Line) (captures : Captures) : String :=
  String.ofList ((Piece.ofText source.text.toList).flatMap (referencedText line captures))

end Source

end ScopeTokenizer.Pattern
