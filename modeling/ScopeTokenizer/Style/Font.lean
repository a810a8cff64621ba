import ScopeTokenizer.Text.Split
import ScopeTokenizer.Unicode.Classes

/-!
# Font styles

A font style is a set of three switches. Themes write it as words, metadata stores it
in three bits.
-/

namespace ScopeTokenizer.Style

/-- How the letters of a token are drawn. -/
structure Font where
  italic : Bool := false
  bold : Bool := false
  underline : Bool := false
  deriving DecidableEq, Repr

namespace Font

/-- No switch is on. -/
def plain : Font := {}

/-- The three bits of a font style, italic lowest. -/
def bits (font : Font) : Nat :=
  font.italic.toNat + 2 * font.bold.toNat + 4 * font.underline.toNat

/-- The font style of three bits; higher bits are dropped. -/
def ofBits (bits : Nat) : Font := ⟨bits.testBit 0, bits.testBit 1, bits.testBit 2⟩

/-- Turns on the switch that a word names; other words change nothing. -/
def addWord (font : Font) (word : String) : Font :=
  match word with
  | "italic" => { font with italic := true }
  | "bold" => { font with bold := true }
  | "underline" => { font with underline := true }
  | _ => font

/-- Reads a font style from the blank-separated words of a theme. -/
def ofText (text : String) : Font :=
  ((Text.words Unicode.isBlank text.toList).map String.ofList).foldl addWord plain

@[simp] theorem ofBits_bits (font : Font) : ofBits font.bits = font := by
  rcases font with ⟨_ | _, _ | _, _ | _⟩ <;> rfl

end Font

end ScopeTokenizer.Style
