import Mathlib.Data.List.Infix
import ScopeTokenizer.Style.Color

/-!
# Numbers of colors

A color map only ever grows at its end. So a color keeps the number it got first, and a number can
be looked up later in place of being kept. Since numbers and colors lead to one another, different
numbers are those of different colors.
-/

namespace ScopeTokenizer.Style.ColorMap

variable {map later : ColorMap}

/-- The number of a color that may be missing; that of no color is zero. -/
def number (map : ColorMap) (color : Option String) : Nat := (color.bind map.number?).getD 0

theorem number?_eq_some_iff {color : String} {number : Nat} :
    map.number? color = some number ↔ map.color? number = some (normal color) :=
  map.inverse _ _

theorem exists_color? {color : String} (mem : color ∈ map.colors) :
    ∃ number, map.color? number = some color := by
  obtain ⟨index, there⟩ := List.mem_iff_getElem?.mp mem
  exact ⟨index + 1, there⟩

theorem mem_colors {color : String} {number : Nat} (named : map.color? number = some color) :
    color ∈ map.colors := by
  cases number with
  | zero => cases named
  | succ index => exact List.mem_of_getElem? named

/-- The colors without a number are those that have not joined in any case. -/
theorem number?_eq_none_iff {color : String} :
    map.number? color = none ↔ normal color ∉ map.colors := by
  rw [Option.eq_none_iff_forall_ne_some]
  constructor
  · intro missing mem
    obtain ⟨number, named⟩ := exists_color? mem
    exact missing number (number?_eq_some_iff.mpr named)
  · intro missing number found
    exact missing (mem_colors (number?_eq_some_iff.mp found))

theorem number_of_number? {color : String} {number : Nat}
    (found : map.number? color = some number) :
    map.number (some color) = number := by
  rw [ColorMap.number, Option.bind_some, found, Option.getD_some]

theorem colors_prefix_intern (map : ColorMap) (color : Option String) :
    map.colors <+: (map.intern color).2.colors := by
  cases color with
  | none => exact List.prefix_rfl
  | some color =>
    cases found : map.number? color with
    | some number =>
      rw [intern_of_number? found]
    | none =>
      rw [intern_of_fresh found]
      exact List.prefix_append _ _

theorem color?_of_isPrefix (grown : map.colors <+: later.colors) {number : Nat} {color : String}
    (named : map.color? number = some color) : later.color? number = some color := by
  cases number with
  | zero => cases named
  | succ index =>
    obtain ⟨below, -⟩ := List.getElem?_eq_some_iff.mp named
    obtain ⟨more, whole⟩ := grown
    rw [color?, colorAt?, ← whole, List.getElem?_append_left below]
    exact named

/-- A color keeps its number. -/
theorem number?_of_isPrefix (grown : map.colors <+: later.colors) {color : String} {number : Nat}
    (found : map.number? color = some number) : later.number? color = some number :=
  number?_eq_some_iff.mpr (color?_of_isPrefix grown (number?_eq_some_iff.mp found))

/-- The number that a color gets when it joins. -/
theorem number?_intern (map : ColorMap) (color : String) :
    (map.intern (some color)).2.number? color = some (map.intern (some color)).1 := by
  cases found : map.number? color with
  | some number =>
    rw [intern_of_number? found]
    exact found
  | none =>
    rw [intern_of_fresh found]
    exact (Text.Keyed.find?_insert _ _ _ _).trans (if_pos rfl)

/-- What was answered when a color joined can be looked up in every later map. -/
theorem intern_eq_number {color : Option String}
    (grown : (map.intern color).2.colors <+: later.colors) :
    (map.intern color).1 = later.number color := by
  cases color with
  | none => rfl
  | some color =>
    exact (number_of_number? (number?_of_isPrefix grown (number?_intern map color))).symm

/-- A number that is not zero leads back to the color that it is the number of. -/
theorem color?_number {color : Option String} (given : map.number color ≠ 0) :
    ∃ text ∈ color, map.color? (map.number color) = some (normal text) := by
  cases color with
  | none => exact absurd rfl given
  | some text =>
    cases found : map.number? text with
    | none => exact absurd (by rw [number, Option.bind_some, found, Option.getD_none]) given
    | some number =>
      rw [number_of_number? found]
      exact ⟨text, rfl, number?_eq_some_iff.mp found⟩

theorem le_length_of_color? {number : Nat} {color : String}
    (named : map.color? number = some color) :
    number ≤ map.colors.length := by
  cases number with
  | zero => cases named
  | succ index => exact (List.getElem?_eq_some_iff.mp named).1

/-- A color has one number only. -/
theorem color?_inj {first second : Nat} {color : String} (one : map.color? first = some color)
    (other : map.color? second = some color) : first = second :=
  Option.some.inj (((map.inverse _ _).mpr one).symm.trans ((map.inverse _ _).mpr other))

end ScopeTokenizer.Style.ColorMap
