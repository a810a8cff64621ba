import ScopeTokenizer.Pattern.Pieces

/-!
# Anchors

A line is searched on its own, so that a regular expression cannot tell the start of the
text from the start of a line, nor where the enclosing region began. Whether the anchors
for these two places may match is therefore decided from outside, and an anchor that may
not is replaced by a character that text hardly ever contains.
-/

namespace ScopeTokenizer.Pattern

/-- Which anchors may match at a position. -/
structure Anchors where
  /-- `\A`, the start of the text. -/
  start : Bool
  /-- `\G`, the place where the current rule began or ended. -/
  here : Bool
  deriving DecidableEq, Repr

namespace Anchors

/-- Both anchors may match. -/
def both : Anchors := ⟨true, true⟩

/-- The anchors at a position of a line: `\A` on the first line of a text, and `\G` at the
anchor position. -/
def ofPosition (firstLine : Bool) (anchor : Option Nat) (position : Nat) : Anchors :=
  ⟨firstLine, anchor == some position⟩

/-- Both switches, spelled out. -/
def describe (anchors : Anchors) : String := s!"allow_A={anchors.start}, allow_G={anchors.here}"

/-- The character that stands for an anchor that may not match. -/
def placeholder : Char := '\uffff'

/-- Replaces a piece that is an anchor which may not match. -/
def resolvePiece (anchors : Anchors) : Piece → Piece
  | .escape 'A' => if anchors.start then .escape 'A' else .literal placeholder
  | .escape 'G' => if anchors.here then .escape 'G' else .literal placeholder
  | piece => piece

/-- Replaces every anchor that may not match. -/
def resolvePieces (anchors : Anchors) (text : List Char) : List Char :=
  textOf ((Piece.ofText text).map anchors.resolvePiece)

/-- Whether a backslash stands somewhere before an `A` or a `G`. -/
def mayOccur : List Char → Bool
  | [] => false
  | c :: rest => (c = '\\' && (rest.head? = some 'A' || rest.head? = some 'G')) || mayOccur rest

/-- Replaces every anchor that may not match, after a look at whether there can be any. -/
def resolve (anchors : Anchors) (pattern : String) : String :=
  if anchors = both || !mayOccur pattern.toList then pattern
  else String.ofList (anchors.resolvePieces pattern.toList)

end Anchors

end ScopeTokenizer.Pattern
