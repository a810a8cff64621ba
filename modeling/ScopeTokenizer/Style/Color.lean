import ScopeTokenizer.Text.Case
import ScopeTokenizer.Text.Keyed
import ScopeTokenizer.Unicode.Classes

/-!
# Color maps

Metadata has no room for colors, so a theme numbers its distinct colors from one up,
in the order in which it first uses them. Number zero stands for no color. Colors that
differ only in case are one color.
-/

namespace ScopeTokenizer.Style

/-- The color with a number, among colors the first of which has number 1. -/
def colorAt? (colors : List String) : Nat → Option String
  | 0 => none
  | index + 1 => colors[index]?

theorem colorAt?_concat (colors : List String) (last : String) (number : Nat) :
    colorAt? (colors ++ [last]) number =
      if number = colors.length + 1 then some last else colorAt? colors number := by
  cases number with
  | zero => rfl
  | succ index =>
    rw [colorAt?, colorAt?, List.getElem?_append]
    split
    · next inside =>
      rw [if_neg]
      omega
    · next outside =>
      by_cases here : index = colors.length
      · simp [here]
      · rw [if_neg (fun same => here (Nat.succ.inj same)), List.getElem?_eq_none (by simp; omega),
          List.getElem?_eq_none (Nat.le_of_not_lt outside)]

/-- No color has a number, and no number a color. -/
theorem find?_nil_iff_colorAt?_nil (color : String) (number : Nat) :
    Text.Keyed.find? [] color = some number ↔ colorAt? [] number = some color := by
  cases number <;> exact ⟨nofun, nofun⟩

/-- The distinct colors of a theme, in upper case, and the numbers that they have. Neither of the
two is without the other: a color has a number just if that leads back to it. -/
structure ColorMap where
  numbers : Text.Keyed Nat := []
  /-- The one with number 1 comes first. -/
  colors : List String := []
  inverse : ∀ color number, numbers.find? color = some number ↔
    colorAt? colors number = some color := by
      exact ScopeTokenizer.Style.find?_nil_iff_colorAt?_nil
  deriving DecidableEq, Repr

namespace ColorMap

/-- The form under which a color is kept. -/
def normal (color : String) : String := String.ofList (Text.upperCase color.toList)

/-- The number of a color that the map already holds. -/
def number? (map : ColorMap) (color : String) : Option Nat := map.numbers.find? (normal color)

/-- The color with a number. -/
def color? (map : ColorMap) (number : Nat) : Option String := colorAt? map.colors number

/-- The map with one more color, which gets the next number. -/
def join (map : ColorMap) (color : String) (fresh : map.numbers.find? color = none) : ColorMap where
  numbers := map.numbers.insert color (map.colors.length + 1)
  colors := map.colors ++ [color]
  inverse := by
    intro other number
    rw [Text.Keyed.find?_insert, colorAt?_concat]
    have known := map.inverse other number
    by_cases last : number = map.colors.length + 1
    · rw [if_pos last]
      by_cases same : color = other
      · rw [if_pos same, last, same]
        simp
      · rw [if_neg same, known, last, colorAt?, List.getElem?_eq_none (Nat.le_refl _)]
        simp [same]
    · rw [if_neg last]
      by_cases same : color = other
      · rw [if_pos same, ← known, ← same, fresh]
        simp [Ne.symm last]
      · rw [if_neg same, known]

/-- The number of a color, which joins the map unless it is there already. No color has
number zero. -/
def intern (map : ColorMap) : Option String → Nat × ColorMap
  | none => (0, map)
  | some color =>
    match known : map.number? color with
    | some number => (number, map)
    | none => (map.colors.length + 1, map.join (normal color) known)

@[simp] theorem intern_none (map : ColorMap) : map.intern none = (0, map) := rfl

@[simp] theorem color?_zero (map : ColorMap) : map.color? 0 = none := rfl

theorem intern_of_number? {map : ColorMap} {color : String} {number : Nat}
    (known : map.number? color = some number) : map.intern (some color) = (number, map) := by
  rw [intern]
  split
  · next other found =>
    cases found.symm.trans known
    rfl
  · next missing => cases missing.symm.trans known

theorem intern_of_fresh {map : ColorMap} {color : String} (fresh : map.number? color = none) :
    map.intern (some color) = (map.colors.length + 1, map.join (normal color) fresh) := by
  rw [intern]
  split
  · next found => cases found.symm.trans fresh
  · rfl

end ColorMap

/-- Whether a color is written `#rgb`, `#rgba`, `#rrggbb` or `#rrggbbaa`. Any other text,
such as `inherit`, is no color. -/
def isHexColor (text : String) : Bool :=
  match text.toList with
  | '#' :: digits => [3, 4, 6, 8].contains digits.length && digits.all Unicode.isAsciiHexDigit
  | _ => false

end ScopeTokenizer.Style
