import Mathlib.Tactic.IntervalCases
import ScopeTokenizer.Style.Metadata

/-!
# Colors in packed metadata

The number of a color has nine bits in packed metadata, for the foreground as for the background.
What is read out of a packed word is the number modulo 512, and no other field gets in its way.
-/

namespace ScopeTokenizer.Style

/-- The two colors of text. -/
inductive Ground where
  | foreground
  | background
  deriving DecidableEq, Repr

namespace Metadata

/-- The number of a color. -/
def number (m : Metadata) : Ground → UInt32
  | .foreground => m.foreground
  | .background => m.background

theorem number_pack (language : UInt8) (kind : TokenKind) (font : Font)
    (foreground background : UInt32) (ground : Ground) :
    (pack language kind font foreground background).number ground =
      (match ground with
      | .foreground => foreground
      | .background => background) &&& 511 := by
  apply UInt32.eq_of_toBitVec_eq
  cases ground with
  | foreground =>
    ext place below
    simp only [number, Metadata.foreground, pack, kindMask, fontMask, foregroundMask,
      backgroundMask]
    interval_cases place <;> simp
  | background =>
    ext place below
    simp only [number, Metadata.background, pack, kindMask, fontMask, foregroundMask,
      backgroundMask]
    interval_cases place <;> simp

theorem number_and (m : Metadata) (ground : Ground) : m.number ground &&& 511 = m.number ground := by
  apply UInt32.eq_of_toBitVec_eq
  cases ground with
  | foreground =>
    ext place below
    simp only [number, Metadata.foreground, foregroundMask]
    interval_cases place <;> simp
  | background =>
    ext place below
    simp only [number, Metadata.background, backgroundMask]
    interval_cases place <;> simp

theorem toNat_and (word : UInt32) : (word &&& 511).toNat = word.toNat % 512 := by
  rw [UInt32.toNat_and]
  exact Nat.and_two_pow_sub_one_eq_mod word.toNat 9

theorem toNat_number_lt (m : Metadata) (ground : Ground) : (m.number ground).toNat < 512 := by
  rw [← number_and, toNat_and]
  exact Nat.mod_lt _ (by decide)

/-- A color that is set is kept modulo 512. -/
theorem number_set (m : Metadata) (language : UInt8) (kind : TokenKind) (font : Option Font)
    (foreground background : UInt32) (ground : Ground) :
    (m.set language kind font foreground background).number ground =
      let given := match ground with
        | .foreground => foreground
        | .background => background
      if given = 0 then m.number ground else given &&& 511 := by
  rw [set, number_pack]
  cases ground with
  | foreground =>
    dsimp only
    split
    · exact number_and m .foreground
    · rfl
  | background =>
    dsimp only
    split
    · exact number_and m .background
    · rfl

end Metadata

end ScopeTokenizer.Style
