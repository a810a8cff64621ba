import ScopeTokenizer.Unicode.Classes

/-!
# Pieces of a pattern

A grammar's patterns are changed before they are compiled: anchors are switched off,
and references to the captures of another pattern are filled in. For that a pattern is
read as pieces, each a single character or an escape. An escaped backslash is one piece,
so that the letter behind it is never taken for part of an escape.
-/

namespace ScopeTokenizer.Pattern

/-- A piece of a pattern's text. -/
inductive Piece where
  | literal (c : Char)
  /-- A backslash with the character after it, which is no digit. -/
  | escape (c : Char)
  /-- A backslash with all the digits after it. -/
  | reference (digits : List Char)
  /-- A backslash at the end of the pattern. -/
  | dangling
  deriving DecidableEq, Repr

namespace Piece

/-- How a piece is written. -/
def text : Piece → List Char
  | literal c => [c]
  | escape c => ['\\', c]
  | reference digits => '\\' :: digits
  | dangling => ['\\']

/-- The reference whose digits were read in reverse, if any were. -/
def ofRun : List Char → List Piece
  | [] => []
  | run => [reference run.reverse]

/-- Reads the pieces of a text. `run` holds the digits, in reverse, of a reference that
the text may continue. -/
def readFrom (run : List Char) : List Char → List Piece
  | [] => ofRun run
  | c :: rest =>
    if !run.isEmpty && Unicode.isAsciiDigit c then readFrom (c :: run) rest
    else ofRun run ++
      if c = '\\' then
        match rest with
        | [] => [dangling]
        | d :: rest =>
          if Unicode.isAsciiDigit d then readFrom [d] rest else escape d :: readFrom [] rest
      else literal c :: readFrom [] rest

/-- The pieces of a text. -/
def ofText (text : List Char) : List Piece := readFrom [] text

end Piece

/-- The text that pieces write. -/
def textOf (pieces : List Piece) : List Char := pieces.flatMap Piece.text

@[simp] theorem textOf_nil : textOf [] = [] := rfl

@[simp] theorem textOf_cons (piece : Piece) (pieces : List Piece) :
    textOf (piece :: pieces) = piece.text ++ textOf pieces := rfl

@[simp] theorem textOf_append (first second : List Piece) :
    textOf (first ++ second) = textOf first ++ textOf second := by
  simp [textOf]

theorem textOf_ofRun (run : List Char) :
    textOf (Piece.ofRun run) = if run = [] then [] else '\\' :: run.reverse := by
  cases run <;> simp [Piece.ofRun, textOf, Piece.text]

theorem textOf_readFrom (run text : List Char) :
    textOf (Piece.readFrom run text) = textOf (Piece.ofRun run) ++ text := by
  fun_induction Piece.readFrom run text with
  | case1 run => simp
  | case2 run c rest digit ih =>
    rw [ih]
    cases run with
    | nil => simp at digit
    | cons d run => simp [textOf_ofRun]
  | case3 run c rest digit ih₂ ih₁ =>
    rw [textOf_append]
    congr 1
    split
    · next equal =>
      subst equal
      cases rest with
      | nil => rfl
      | cons d rest =>
        obtain ⟨digits, plain⟩ := ih₂
        dsimp only
        split
        · simp [digits, textOf_ofRun]
        · simp [plain, textOf_ofRun, Piece.text]
    · simp [ih₁, textOf_ofRun, Piece.text]

/-- Nothing of a text is lost by reading its pieces. -/
@[simp] theorem textOf_ofText (text : List Char) : textOf (Piece.ofText text) = text := by
  simp [Piece.ofText, textOf_readFrom, textOf_ofRun]

end ScopeTokenizer.Pattern
