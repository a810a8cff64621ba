import Mathlib.Data.List.Basic
import ScopeTokenizer.Proofs.Theme.Colors

/-!
# Colors numbered one after the other

A theme asks a color map for the numbers of all its colors, most of them more than once and in
varying case. The answers are numbers from one up without a gap, in the order of first use, and the
map leads back from each number to its color. What has been answered stays so, whatever is asked
for later.
-/

namespace ScopeTokenizer.Style.ColorMap

/-- The numbers that colors get one after the other, and the map after them. -/
def internAll (map : ColorMap) : List (Option String) → List Nat × ColorMap
  | [] => ([], map)
  | color :: colors =>
    let (number, map) := map.intern color
    let (numbers, map) := map.internAll colors
    (number :: numbers, map)

/-- The distinct forms of colors, in the order of first use. -/
def forms (colors : List (Option String)) : List String :=
  (colors.filterMap (·.map normal)).eraseDups

variable {map later : ColorMap} {color : Option String} {colors : List (Option String)}

theorem internAll_cons (map : ColorMap) (color : Option String) (colors : List (Option String)) :
    map.internAll (color :: colors) =
      ((map.intern color).1 :: ((map.intern color).2.internAll colors).1,
        ((map.intern color).2.internAll colors).2) := rfl

theorem internAll_append (map : ColorMap) (colors more : List (Option String)) :
    (map.internAll (colors ++ more)).2 = ((map.internAll colors).2.internAll more).2 := by
  induction colors generalizing map with
  | nil => rfl
  | cons color colors ih => rw [List.cons_append, internAll_cons, ih, internAll_cons]

/-! ## The colors of the map -/

/-- A color joins if it is not there in any case. -/
theorem colors_intern {known : List String} (is : map.colors = known.eraseDups)
    (color : Option String) :
    (map.intern color).2.colors = (known ++ (color.map normal).toList).eraseDups := by
  cases color with
  | none => simpa [intern] using is
  | some color =>
    rw [Option.map_some, Option.toList_some]
    cases found : map.number? color with
    | some number =>
      have joined := mem_colors (number?_eq_some_iff.mp found)
      rw [is, List.mem_eraseDups] at joined
      simp [intern_of_number? found, is, joined, List.eraseDups_append, List.removeAll]
    | none =>
      have fresh := number?_eq_none_iff.mp found
      rw [is, List.mem_eraseDups] at fresh
      simp [intern_of_fresh found, join, is, fresh, List.eraseDups_append, List.removeAll,
        List.eraseDups_cons]

theorem colors_internAll {known : List String} (is : map.colors = known.eraseDups)
    (colors : List (Option String)) :
    (map.internAll colors).2.colors = (known ++ colors.filterMap (·.map normal)).eraseDups := by
  induction colors generalizing map known with
  | nil => simpa [internAll] using is
  | cons color colors ih =>
    rw [internAll_cons, ih (colors_intern is color), List.append_assoc]
    cases color <;> rfl

/-- The map has the colors in the order of first use. -/
theorem colors_internAll_empty (colors : List (Option String)) :
    (internAll {} colors).2.colors = forms colors := by
  have none : ({} : ColorMap).colors = ([] : List String).eraseDups := rfl
  rw [colors_internAll none, List.nil_append, forms]

theorem eraseDups_of_nodup {texts : List String} (distinct : texts.Nodup) :
    texts.eraseDups = texts := by
  induction distinct with
  | nil => rfl
  | @cons text texts apart _ ih =>
    have others : texts.filter (fun other => !other == text) = texts :=
      List.filter_eq_self.mpr fun other mem => by simpa using (apart other mem).symm
    rw [List.eraseDups_cons, others, ih]

/-- Colors of which no two are the same all join. -/
theorem colors_internAll_of_nodup (distinct : (colors.filterMap (·.map normal)).Nodup) :
    (internAll {} colors).2.colors = colors.filterMap (·.map normal) := by
  rw [colors_internAll_empty, forms, eraseDups_of_nodup distinct]

theorem colors_prefix_internAll (map : ColorMap) (colors : List (Option String)) :
    map.colors <+: (map.internAll colors).2.colors := by
  induction colors generalizing map with
  | nil => exact List.prefix_rfl
  | cons color colors ih => exact (colors_prefix_intern map color).trans (ih _)

theorem color?_eq_none_iff {number : Nat} :
    map.color? number = none ↔ number = 0 ∨ map.colors.length < number := by
  cases number with
  | zero => simp
  | succ index =>
    rw [color?, colorAt?, List.getElem?_eq_none_iff]
    omega

/-! ## The answers -/

/-- All answers can be looked up in the map that they lead to, and in every later one. -/
theorem internAll_eq_map (grown : (map.internAll colors).2.colors <+: later.colors) :
    (map.internAll colors).1 = colors.map later.number := by
  induction colors generalizing map with
  | nil => rfl
  | cons color colors ih =>
    have between := colors_prefix_internAll (map.intern color).2 colors
    have number := intern_eq_number (between.trans grown)
    have numbers : ((map.intern color).2.internAll colors).1 = colors.map later.number := ih grown
    exact congrArg₂ List.cons number numbers

theorem mem_zip_internAll {number : Nat} :
    (color, number) ∈ colors.zip (map.internAll colors).1 ↔
      color ∈ colors ∧ number = (map.internAll colors).2.number color := by
  rw [internAll_eq_map List.prefix_rfl, ← List.map_prod_left_eq_zip]
  simp [eq_comm]

/-- A color that was asked for has a number. -/
theorem exists_number? (map : ColorMap) {color : String} (mem : some color ∈ colors) :
    ∃ number, (map.internAll colors).2.number? color = some number := by
  induction colors generalizing map with
  | nil => cases mem
  | cons first colors ih =>
    rcases List.mem_cons.mp mem with rfl | mem
    · have grown := colors_prefix_internAll (map.intern (some color)).2 colors
      exact ⟨_, number?_of_isPrefix grown (number?_intern map color)⟩
    · exact ih (map.intern first).2 mem

/-- What was asked for got the number that it has in the end. -/
theorem known_of_mem_zip {color : String} {number : Nat}
    (answer : (some color, number) ∈ colors.zip (map.internAll colors).1) :
    (map.internAll colors).2.number? color = some number := by
  obtain ⟨mem, rfl⟩ := mem_zip_internAll.mp answer
  obtain ⟨number, found⟩ := exists_number? map mem
  rw [found, number_of_number? found]

/-- Each color of the map was asked for. -/
theorem exists_mem_zip {number : Nat} {form : String}
    (named : (internAll {} colors).2.color? number = some form) :
    ∃ color, (some color, number) ∈ colors.zip (internAll {} colors).1 := by
  have mem : form ∈ forms colors := by
    rw [← colors_internAll_empty]
    exact mem_colors named
  rw [forms, List.mem_eraseDups, List.mem_filterMap] at mem
  obtain ⟨_, asked, used⟩ := mem
  obtain ⟨color, rfl, rfl⟩ := Option.map_eq_some_iff.mp used
  obtain ⟨other, found⟩ := exists_number? {} asked
  have same : number = other :=
    color?_inj named (number?_eq_some_iff.mp found)
  exact ⟨color, mem_zip_internAll.mpr ⟨asked, by rw [number_of_number? found, same]⟩⟩

/-! ## All answers -/

/-- `Numbered colors numbers map` says that `colors`, when they are asked for one after the other,
get `numbers`, and that these are the numbers of the colors of `map`. -/
structure Numbered (colors : List (Option String)) (numbers : List Nat) (map : ColorMap) :
    Prop where
  answered : numbers.length = colors.length
  /-- No color has number zero. -/
  unset : ∀ number, (none, number) ∈ colors.zip numbers → number = 0
  /-- The numbers go from one up without a gap. -/
  dense : ∀ number, (∃ color, (some color, number) ∈ colors.zip numbers) ↔
    1 ≤ number ∧ number ≤ (forms colors).length
  /-- They are in the order of first use. -/
  ordered : ∀ index, map.color? (index + 1) = (forms colors)[index]?
  /-- A number leads back to the color that got it. -/
  named : ∀ color number, (some color, number) ∈ colors.zip numbers →
    map.color? number = some (normal color)
  /-- Two colors have one number if they differ in case only. -/
  shared : ∀ first second number other, (some first, number) ∈ colors.zip numbers →
    (some second, other) ∈ colors.zip numbers → (number = other ↔ normal first = normal second)
  /-- No other number is that of a color. -/
  unused : ∀ number, map.color? number = none ↔ number = 0 ∨ (forms colors).length < number

theorem numbered_internAll (colors : List (Option String)) :
    Numbered colors (internAll {} colors).1 (internAll {} colors).2 := by
  have named : ∀ color number, (some color, number) ∈ colors.zip (internAll {} colors).1 →
      (internAll {} colors).2.color? number = some (normal color) :=
    fun color number answer => number?_eq_some_iff.mp (known_of_mem_zip answer)
  have unused : ∀ number, (internAll {} colors).2.color? number = none ↔
      number = 0 ∨ (forms colors).length < number :=
    fun number => by rw [color?_eq_none_iff, colors_internAll_empty]
  constructor
  case answered => rw [internAll_eq_map List.prefix_rfl, List.length_map]
  case unset =>
    intro number answer
    rw [(mem_zip_internAll.mp answer).2]
    rfl
  case dense =>
    intro number
    have used : 1 ≤ number ∧ number ≤ (forms colors).length ↔
        (internAll {} colors).2.color? number ≠ none := by
      rw [ne_eq, unused]
      omega
    rw [used, Option.ne_none_iff_exists']
    constructor
    · rintro ⟨color, answer⟩
      exact ⟨_, named color number answer⟩
    · rintro ⟨form, named⟩
      exact exists_mem_zip named
  case ordered =>
    intro index
    rw [color?, colorAt?, colors_internAll_empty]
  case named => exact named
  case shared =>
    intro first second number other answer also
    constructor
    · rintro rfl
      exact Option.some.inj ((named first number answer).symm.trans (named second number also))
    · intro same
      have numbers := (known_of_mem_zip answer).symm
      rw [number?, same] at numbers
      exact Option.some.inj (numbers.trans (known_of_mem_zip also))
  case unused => exact unused

/-- No answer is larger than how many colors there are. -/
theorem Numbered.le_length {numbers : List Nat} (numbered : Numbered colors numbers map)
    {number : Nat} (mem : number ∈ numbers) : number ≤ (forms colors).length := by
  rw [← List.map_snd_zip (Nat.le_of_eq numbered.answered)] at mem
  obtain ⟨⟨color, _⟩, answer, rfl⟩ := List.mem_map.mp mem
  cases color with
  | none => exact numbered.unset _ answer ▸ Nat.zero_le _
  | some color => exact ((numbered.dense _).mp ⟨color, answer⟩).2

/-- Colors that are asked for one after the other get the numbers from one up, in the order of first
use and one for each color in any case, and the map leads back from these numbers, and from no
others, to the colors. Whatever is asked for later, the answers stay, and so do the colors that they
lead to. Metadata takes numbers as words of 32 bits, in which all of them have room while there are
fewer than 2 ^ 32 distinct colors. -/
theorem numbers_stay_bijective (colors : List (Option String)) :
    Numbered colors (internAll {} colors).1 (internAll {} colors).2 ∧
      (∀ more, (internAll {} colors).1 <+: (internAll {} (colors ++ more)).1 ∧
        ∀ number color, (internAll {} colors).2.color? number = some color →
          (internAll {} (colors ++ more)).2.color? number = some color) ∧
      ((forms colors).length < UInt32.size →
        ∀ number ∈ (internAll {} colors).1, (UInt32.ofNat number).toNat = number) := by
  have numbered := numbered_internAll colors
  refine ⟨numbered, fun more => ?_, fun few number mem => ?_⟩
  · have grown : (internAll {} colors).2.colors <+: (internAll {} (colors ++ more)).2.colors := by
      rw [internAll_append]
      exact colors_prefix_internAll _ more
    constructor
    · rw [internAll_eq_map grown, internAll_eq_map List.prefix_rfl, List.map_append]
      exact List.prefix_append _ _
    · intro number color named
      exact color?_of_isPrefix grown named
  · exact UInt32.toNat_ofNat_of_lt' (Nat.lt_of_le_of_lt (numbered.le_length mem) few)

end ScopeTokenizer.Style.ColorMap
