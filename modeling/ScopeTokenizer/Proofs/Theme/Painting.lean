import Mathlib.Data.List.Nodup
import ScopeTokenizer.Proofs.Style.Numbering
import ScopeTokenizer.Proofs.Style.Packing
import ScopeTokenizer.Proofs.Theme.Defaults
import ScopeTokenizer.Proofs.Theme.Specificity

/-!
# Colors of painted text

The numbers by which rules name colors lead back to the colors that entries set. Metadata has room
for the numbers below 512 only, so it is these colors that text can be painted in. A larger number
is packed without its upper bits, and then names another color, or none.
-/

namespace ScopeTokenizer.Theme

open Style Text

/-! ## Colors that entries set -/

/-- The number of a color. -/
def Look.number (look : Look) : Ground → Nat
  | .foreground => look.foreground
  | .background => look.background

/-- The color that an entry sets. -/
def ScopedEntry.color (entry : ScopedEntry) : Ground → Option String
  | .foreground => entry.foreground
  | .background => entry.background

theorem Look.number_over (upper lower : Look) (ground : Ground) :
    (upper.over lower).number ground =
      if upper.number ground = 0 then lower.number ground else upper.number ground := by
  cases ground <;> rfl

theorem ScopedEntry.number_look (entry : ScopedEntry) (colors : ColorMap) (ground : Ground) :
    (entry.look colors).number ground = colors.number (entry.color ground) := by
  cases ground <;> rfl

/-- Each color that a look has is one that some entry sets. -/
def Look.Painted (entries : List ScopedEntry) (colors : ColorMap) (look : Look) : Prop :=
  ∀ ground, look.number ground ≠ 0 → ∃ entry ∈ entries, ∃ text ∈ entry.color ground,
    colors.color? (look.number ground) = some (ColorMap.normal text)

theorem Look.Painted.over {entries : List ScopedEntry} {colors : ColorMap} {lower : Look}
    (painted : lower.Painted entries colors) {entry : ScopedEntry} (mem : entry ∈ entries) :
    ((entry.look colors).over lower).Painted entries colors := by
  intro ground
  rw [Look.number_over, ScopedEntry.number_look]
  split
  · exact painted ground
  · intro given
    obtain ⟨text, sets, found⟩ := ColorMap.color?_number given
    exact ⟨entry, mem, text, sets, found⟩

/-! ## Colors that rules set -/

section Scanning

variable {P : Look → Prop}

theorem Findings.forall_look_take {findings : Findings} {look : Look}
    (all : ∀ rule ∈ findings.rules, P rule.look) (kept : ∀ lower, P lower → P (look.over lower))
    (depth : Nat) (parents : List String) :
    ∀ rule ∈ (findings.take depth parents look).rules, P rule.look := by
  obtain ⟨main, parented⟩ := List.forall_mem_cons.mp all
  unfold take
  dsimp only
  split
  · exact List.forall_mem_cons.mpr ⟨kept _ main, parented⟩
  · split
    · refine List.forall_mem_cons.mpr ⟨main, List.forall_mem_map.mpr fun rule mem => ?_⟩
      split
      · exact kept _ (parented rule mem)
      · exact parented rule mem
    · refine List.forall_mem_cons.mpr ⟨main, List.forall_mem_append.mpr ⟨parented, ?_⟩⟩
      exact List.forall_mem_singleton.mpr (kept _ main)

/-- What holds of the unset look, and still holds under each entry, holds of all rules found. -/
theorem forall_look_scan {colors : ColorMap} {entries : List ScopedEntry} (unset : P {})
    (kept : ∀ entry ∈ entries, ∀ lower, P lower → P ((entry.look colors).over lower))
    (path : List String) : ∀ rule ∈ (scan colors entries path).rules, P rule.look := by
  rw [scan]
  refine List.foldlRecOn (motive := fun findings : Findings =>
    ∀ rule ∈ findings.rules, P rule.look) _ _ (List.forall_mem_singleton.mpr unset) ?_
  intro findings all entry mem
  exact Findings.forall_look_take all (kept entry (List.mem_of_mem_filter mem)) _ _

/-- Of entries without parents, only the rule without parents takes anything. -/
theorem parented_scan {colors : ColorMap} {entries : List ScopedEntry}
    (orphans : ∀ entry ∈ entries, entry.parents = []) (path : List String) :
    (scan colors entries path).parented = [] := by
  rw [scan]
  refine List.foldlRecOn (motive := fun findings : Findings => findings.parented = []) _ _ rfl ?_
  intro findings none entry mem
  rw [Findings.take, if_pos (orphans entry (List.mem_of_mem_filter mem))]
  exact none

end Scanning

theorem painted_of_mem_rulesFor {definition : ThemeDef} {scope : String} {rule : Rule}
    (mem : rule ∈ (ofDefinition definition).rulesFor scope) :
    rule.look.Painted (scopedEntries definition) (ofDefinition definition).colors := by
  rw [rulesFor_eq_scan] at mem
  refine forall_look_scan (fun ground given => ?_) (fun entry mem lower painted => ?_) _ _
    (List.mem_mergeSort.mp mem)
  · cases ground <;> exact absurd rfl given
  · exact painted.over (List.mem_mergeSort.mp (List.mem_of_mem_filter mem))

/-! ## Numbers of colors -/

/-- The colors that a theme asks for: first the default ones, and then those of the entries that
have a scope. -/
def colorsAsked (definition : ThemeDef) : List (Option String) :=
  some (defaultsOf definition).foreground :: some (defaultsOf definition).background ::
    ((sortedEntries definition).filter (·.scope ≠ "")).flatMap fun entry =>
      [entry.foreground, entry.background]

theorem colors_foldl_addEntry (entries : List ScopedEntry) (state : ColorMap × Trie) :
    (entries.foldl addEntry state).1 = (state.1.internAll
      (entries.flatMap fun entry => [entry.foreground, entry.background])).2 := by
  induction entries generalizing state with
  | nil => rfl
  | cons entry entries ih =>
    rw [List.foldl_cons, ih, List.flatMap_cons, ColorMap.internAll_append]
    rfl

/-- The colors of a theme have the numbers that they get one after the other. -/
theorem colors_ofDefinition (definition : ThemeDef) :
    (ofDefinition definition).colors = (ColorMap.internAll {} (colorsAsked definition)).2 := by
  rw [ofDefinition_eq, colorsAsked, ColorMap.internAll_cons, ColorMap.internAll_cons]
  exact colors_foldl_addEntry _ ((defaultsOf definition).backgroundNumber.2, {})

/-! ## Many colors -/

/-- The color with three octal digits. -/
def octalColor (number : Nat) : String :=
  String.ofList ('#' :: [number / 64 % 8, number / 8 % 8, number % 8].map Nat.digitChar)

/-- A theme of entries for one scope. Each sets another background, and so the last one holds. -/
def backgrounds (count : Nat) : ThemeDef where
  entries := (List.range count).map fun number =>
    ⟨some ["a"], some { background := some (octalColor number) }⟩

theorem isHexColor_octalColor (number : Nat) :
    isHexColor (octalColor number) = true := by
  have hex : ∀ digit < 8, Unicode.isAsciiHexDigit (Nat.digitChar digit) = true := by decide
  rw [isHexColor, octalColor, String.toList_ofList]
  simp [hex, Nat.mod_lt]

theorem normal_octalColor (number : Nat) :
    ColorMap.normal (octalColor number) = octalColor number := by
  have upper : ∀ digit < 8, Unicode.CaseMapping.upper.apply (Nat.digitChar digit) =
      [Nat.digitChar digit] := by decide +kernel
  have sign : Unicode.CaseMapping.upper.apply '#' = ['#'] := by decide +kernel
  rw [ColorMap.normal, octalColor, String.toList_ofList, upperCase]
  simp only [List.map_cons, List.map_nil, List.flatMap_cons, List.flatMap_nil, sign,
    upper _ (Nat.mod_lt _ (Nat.zero_lt_succ 7))]
  rfl

theorem octalColor_inj {first second : Nat} (one : first < 512) (other : second < 512)
    (same : octalColor first = octalColor second) : first = second := by
  have digits : ∀ one < 8, ∀ other < 8, Nat.digitChar one = Nat.digitChar other → one = other := by
    decide
  simp only [octalColor, String.ofList_inj, List.map_cons, List.map_nil, List.cons.injEq, true_and,
    and_true] at same
  obtain ⟨upper, middle, lower⟩ := same
  replace upper := digits _ (by omega) _ (by omega) upper
  replace middle := digits _ (by omega) _ (by omega) middle
  replace lower := digits _ (by omega) _ (by omega) lower
  omega

theorem scopedEntries_backgrounds (count : Nat) :
    scopedEntries (backgrounds count) = (List.range count).map fun number =>
      ⟨"a", [], number, none, none, some (octalColor number)⟩ := by
  induction count with
  | zero => rfl
  | succ count ih =>
    have part : EntryDef.parts ⟨some ["a"], some { background := some (octalColor count) }⟩ count =
        [⟨"a", [], count, none, none, some (octalColor count)⟩] := by
      have color : Settings.backgroundColor { background := some (octalColor count) } =
          some (octalColor count) :=
        Option.filter_eq_some_iff.mpr ⟨rfl, isHexColor_octalColor count⟩
      simp only [EntryDef.parts, Option.getD_some, List.map_cons, List.map_nil, ScopedEntry.ofText,
        color]
      rfl
    rw [scopedEntries_eq, backgrounds] at ih ⊢
    rw [List.range_succ, List.map_append, List.map_append, List.zipIdx_append, List.flatMap_append,
      ih]
    simp [part]

theorem sortedEntries_backgrounds (count : Nat) :
    (sortedEntries (backgrounds count)).filter (·.scope ≠ "") =
      scopedEntries (backgrounds count) := by
  have alike (entry : ScopedEntry) (mem : entry ∈ scopedEntries (backgrounds count)) :
      entry.scope = "a" ∧ entry.parents = [] := by
    rw [scopedEntries_backgrounds] at mem
    obtain ⟨number, -, rfl⟩ := List.mem_map.mp mem
    exact ⟨rfl, rfl⟩
  have sorted : sortedEntries (backgrounds count) = scopedEntries (backgrounds count) := by
    refine List.mergeSort_of_pairwise ((pairwise_scopedEntries _).imp_of_mem ?_)
    intro first second one other before
    obtain ⟨scope, parents⟩ := alike first one
    obtain ⟨scope', parents'⟩ := alike second other
    exact isLE_compare_of_unscoped (scope.trans scope'.symm) (parents.trans parents'.symm) before
  rw [sorted]
  exact List.filter_eq_self.mpr fun entry mem => by simp [(alike entry mem).1]

/-- The default colors are the first two. -/
theorem colors_backgrounds {count : Nat} (le : count ≤ 512) :
    (ofDefinition (backgrounds count)).colors.colors =
      "#000000" :: "#FFFFFF" :: (List.range count).map octalColor := by
  have defaults : defaultsOf (backgrounds count) = {} := by
    rw [defaultsOf_eq, backgrounds, List.foldl_map]
    exact List.foldl_fixed' (fun _ => rfl) _
  have asked : (colorsAsked (backgrounds count)).filterMap (·.map ColorMap.normal) =
      "#000000" :: "#FFFFFF" :: (List.range count).map octalColor := by
    have black : ColorMap.normal "#000000" = "#000000" := by decide +kernel
    have white : ColorMap.normal "#ffffff" = "#FFFFFF" := by decide +kernel
    rw [colorsAsked, sortedEntries_backgrounds, scopedEntries_backgrounds, defaults,
      List.filterMap_cons_some (Option.map_some ..), List.filterMap_cons_some (Option.map_some ..),
      List.filterMap_flatMap, List.flatMap_map, black, white, List.map_eq_flatMap]
    simp [normal_octalColor]
  have distinct : ((colorsAsked (backgrounds count)).filterMap (·.map ColorMap.normal)).Nodup := by
    have short {number : Nat} {other : String} (long : other.toList.length = 7) :
        octalColor number ≠ other := by
      rintro rfl
      rw [octalColor, String.toList_ofList] at long
      cases long
    have apart {other : String} (long : other.toList.length = 7) :
        other ∉ (List.range count).map octalColor := by
      intro mem
      obtain ⟨number, -, same⟩ := List.mem_map.mp mem
      exact short long same
    rw [asked]
    refine List.nodup_cons.mpr ⟨?_, List.nodup_cons.mpr ⟨apart rfl, ?_⟩⟩
    · exact List.not_mem_cons_of_ne_of_not_mem (by decide) (apart rfl)
    · refine List.Nodup.map_on (fun first one second other same => ?_) List.nodup_range
      exact octalColor_inj ((List.mem_range.mp one).trans_le le)
        ((List.mem_range.mp other).trans_le le) same
  rw [colors_ofDefinition, ColorMap.colors_internAll_of_nodup distinct, asked]

/-- The only rule for the scope has the background that was set last. -/
theorem background_of_mem_rulesFor {count : Nat} (le : count < 512) {rule : Rule}
    (mem : rule ∈ (ofDefinition (backgrounds (count + 1))).rulesFor "a") :
    rule.look.background = count + 3 := by
  have last : (ofDefinition (backgrounds (count + 1))).colors.number (some (octalColor count)) =
      count + 3 := by
    refine ColorMap.number_of_number? (ColorMap.number?_eq_some_iff.mpr ?_)
    rw [ColorMap.color?, colorAt?, colors_backgrounds le, normal_octalColor]
    simp
  rw [rulesFor_eq_scan, sortedEntries_backgrounds, scopedEntries_backgrounds, List.range_succ,
    List.map_append, List.map_singleton, scan_concat_of_isPrefix List.prefix_rfl,
    Findings.take, if_pos rfl, Rule.sortBySpecificity, List.mem_mergeSort, Findings.rules,
    parented_scan (List.forall_mem_map.mpr fun _ _ => rfl), List.mem_singleton] at mem
  rw [mem]
  simp [Look.over, ScopedEntry.look, last]

/-! ## Colors in metadata -/

/-- Packing keeps a number if it is below 512. Any other number becomes one of these. -/
theorem color?_packed {colors : ColorMap} {number : Nat} {color : String}
    (named : colors.color? number = some color) {packed : UInt32} (small : packed.toNat < 512)
    (kept : number < 512 → packed.toNat = number) :
    colors.color? packed.toNat = some color ↔ number < 512 := by
  constructor
  · intro same
    exact ColorMap.color?_inj same named ▸ small
  · intro below
    rw [kept below, named]

theorem number_enter {styler : Styler} {path : ScopePath} {scope : String} {rule : Rule}
    (applied : (styler.styleOf scope).applied? (some path) = some rule) (ground : Ground) :
    (path.enter styler scope).metadata.number ground =
      if UInt32.ofNat (rule.look.number ground) = 0 then path.metadata.number ground
      else UInt32.ofNat (rule.look.number ground) &&& 511 := by
  rw [ScopePath.enter, ScopePath.metadata, ScopeStyle.mergeInto_of_applied? applied,
    Metadata.number_set]
  cases ground <;> rfl

/-- Under every theme, text inside a scope has the colors around it where the rule that applies sets
none. Where the rule sets a color, this is one that an entry of the theme sets, and its number is
not larger than how many colors the theme has. What is packed is the number modulo 512, so the text has
the color exactly if its number is below 512. -/
theorem painted_exactly_below_512 (definition : ThemeDef) (languages : Languages)
    (path : ScopePath) (scope : String) :
    let colors := (ofDefinition definition).colors
    let styler := Styler.mk languages (ofDefinition definition)
    ∃ rule, (styler.styleOf scope).applied? (some path) = some rule ∧ ∀ ground,
      let number := rule.look.number ground
      let packed := (path.enter styler scope).metadata.number ground
      (number = 0 → packed = path.metadata.number ground) ∧
      (number ≠ 0 → number < UInt32.size → packed.toNat = number % 512) ∧
      (number ≠ 0 → ∃ entry ∈ scopedEntries definition, ∃ text ∈ entry.color ground,
        colors.color? number = some (ColorMap.normal text) ∧ number ≤ colors.colors.length ∧
        (colors.color? packed.toNat = some (ColorMap.normal text) ↔ number < 512)) := by
  dsimp only
  obtain ⟨rule, applied⟩ := exists_applied definition languages scope (some path)
  refine ⟨rule, applied, fun ground => ?_⟩
  have packs (given : rule.look.number ground ≠ 0) (word : rule.look.number ground < UInt32.size) :
      ((path.enter (Styler.mk languages (ofDefinition definition)) scope).metadata.number
        ground).toNat = rule.look.number ground % 512 := by
    have whole := UInt32.toNat_ofNat_of_lt' word
    have set : UInt32.ofNat (rule.look.number ground) ≠ 0 :=
      fun zero => given (whole.symm.trans (congrArg UInt32.toNat zero))
    rw [number_enter applied, if_neg set, Metadata.toNat_and, whole]
  refine ⟨fun none => ?_, packs, fun given => ?_⟩
  · rw [number_enter applied, none]
    rfl
  · obtain ⟨entry, mem, text, sets, named⟩ :=
      painted_of_mem_rulesFor (List.mem_of_find?_eq_some applied) ground given
    refine ⟨entry, mem, text, sets, named, ColorMap.le_length_of_color? named, ?_⟩
    refine color?_packed named (Metadata.toNat_number_lt _ ground) ?_
    intro below
    rw [packs given (below.trans (by decide)), Nat.mod_eq_of_lt below]

/-- The last of 510 backgrounds is number 512, and the color map has it under that number. But text
of the scope is packed with number zero, which is no color. -/
theorem background_lost_from_512 :
    let theme := ofDefinition (backgrounds 510)
    let styler := Styler.mk {} theme
    let path := styler.rootPath "t"
    ∃ rule, (styler.styleOf "a").applied? (some path) = some rule ∧ rule.look.background = 512 ∧
      theme.colors.color? 512 = some "#775" ∧
      (path.enter styler "a").metadata.number .background = 0 ∧ theme.colors.color? 0 = none := by
  dsimp only
  obtain ⟨rule, applied⟩ := exists_applied (backgrounds 510) {} "a"
    (some ((Styler.mk {} (ofDefinition (backgrounds 510))).rootPath "t"))
  have last : rule.look.background = 512 :=
    background_of_mem_rulesFor (by decide) (List.mem_of_find?_eq_some applied)
  refine ⟨rule, applied, last, ?_, ?_, rfl⟩
  · have highest : octalColor 509 = "#775" := by decide
    rw [ColorMap.color?, colorAt?, colors_backgrounds (by decide)]
    simp [highest]
  · rw [number_enter applied, Look.number, last]
    rfl

end ScopeTokenizer.Theme
