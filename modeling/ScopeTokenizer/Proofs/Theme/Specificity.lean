import ScopeTokenizer.Proofs.Theme.Scanning
import ScopeTokenizer.Style.Styler

/-!
# Which rule applies

Of the rules that a theme has for a scope, the first one whose parents are found around the scope
applies. There always is one, since the rule without parents is among them. The rules are sorted, so
none of the others that would apply too is more specific. For that the order has to be one, although
it looks at the lengths of parents only if there are as many of them.
-/

namespace ScopeTokenizer

open Std Style Text

namespace Theme

/-! ## The order of specificity -/

namespace Rule

/-- How specific a rule is: its depth, how many parents it has, and how long they are, the closest
one first. -/
def rank (rule : Rule) : List Nat :=
  rule.depth :: rule.parents.length :: rule.parents.map String.utf8ByteSize

theorem compareNames_eq {first second : List String} (same : first.length = second.length) :
    compareNames first second =
      compare (second.map String.utf8ByteSize) (first.map String.utf8ByteSize) := by
  rw [List.compare_eq_compareLex]
  induction first generalizing second with
  | nil =>
    obtain rfl := List.length_eq_zero_iff.mp same.symm
    rfl
  | cons a first ih =>
    cases second with
    | nil => cases same
    | cons b second =>
      rw [compareNames, ih (Nat.succ.inj same), List.map_cons, List.map_cons,
        List.compareLex_cons_cons]

/-- Rules compare like what makes them specific, the one with more of it first. -/
theorem compareSpecificity_eq (first second : Rule) :
    first.compareSpecificity second = compare second.rank first.rank := by
  rw [compareSpecificity, rank, rank, List.compare_eq_compareLex, List.compareLex_cons_cons,
    List.compareLex_cons_cons]
  congr 1
  split
  · next same =>
    have equal : compare second.parents.length first.parents.length = .eq :=
      Nat.compare_eq_eq.mpr same.symm
    rw [compareNames_eq same, equal, List.compare_eq_compareLex]
    rfl
  · next other =>
    cases order : compare second.parents.length first.parents.length with
    | lt | gt => rfl
    | eq => exact absurd (Nat.compare_eq_eq.mp order).symm other

instance : TransCmp compareSpecificity := by
  have ranked : compareSpecificity = fun first second => compareOn rank second first :=
    funext fun first => funext (compareSpecificity_eq first)
  rw [ranked]
  infer_instance

/-- Of sorted rules, the first one with a property is one of the most specific that have it. -/
theorem not_lt_of_find?_sortBySpecificity {rules : List Rule} {applies : Rule → Bool} {rule : Rule}
    (found : (sortBySpecificity rules).find? applies = some rule) {other : Rule}
    (mem : other ∈ sortBySpecificity rules) (too : applies other = true) :
    other.compareSpecificity rule ≠ .lt := by
  have sorted : (sortBySpecificity rules).Pairwise _ := pairwise_mergeSort_isLE rules
  obtain ⟨-, before, after, split, earlier⟩ := List.find?_eq_some_iff_append.mp found
  rw [split] at sorted mem
  rcases List.mem_append.mp mem with mem | mem
  · exact absurd (earlier other mem) (by rw [too]; decide)
  · rcases List.mem_cons.mp mem with rfl | mem
    · have same : other.compareSpecificity other = .eq := ReflCmp.compare_self
      rw [same]
      decide
    · obtain ⟨-, sorted, -⟩ := List.pairwise_append.mp sorted
      exact OrientedCmp.not_lt_of_isLE (List.rel_of_pairwise_cons sorted mem)

end Rule

/-! ## Rules that apply -/

theorem Findings.parents_main_take {findings : Findings} (free : findings.main.parents = [])
    (depth : Nat) (parents : List String) (look : Look) :
    (findings.take depth parents look).main.parents = [] := by
  unfold take
  dsimp only
  split
  · exact free
  · split
    · exact free
    · exact free

theorem parents_main_scan (colors : ColorMap) (entries : List ScopedEntry) (path : List String) :
    (scan colors entries path).main.parents = [] := by
  rw [scan]
  refine List.foldlRecOn (motive := fun findings : Findings => findings.main.parents = []) _ _ rfl ?_
  exact fun _ free _ _ => Findings.parents_main_take free _ _ _

/-- There is a rule for each scope that asks for no parents. -/
theorem exists_rule_without_parents (definition : ThemeDef) (scope : String) :
    ∃ rule ∈ (ofDefinition definition).rulesFor scope, rule.parents = [] := by
  rw [rulesFor_eq_scan]
  exact ⟨_, List.mem_mergeSort.mpr List.mem_cons_self, parents_main_scan _ _ _⟩

end Theme

namespace Style.ScopeStyle

/-- Whether the parents of a rule are found around a scope. Around a scope that is in no other one
there are none. -/
def applies (outer : Option ScopePath) (rule : Theme.Rule) : Bool :=
  match outer with
  | none => rule.parents.isEmpty
  | some path => path.encloses rule.parents

/-- The rule whose attributes a scope gets inside others. -/
def applied? (style : ScopeStyle) (outer : Option ScopePath) : Option Theme.Rule :=
  style.rules.find? (applies outer)

theorem applies_of_parents_eq_nil (outer : Option ScopePath) {rule : Theme.Rule}
    (free : rule.parents = []) : applies outer rule = true := by
  unfold applies
  rw [free]
  cases outer with
  | none => rfl
  | some path => exact path.encloses_nil

/-- The rule that applies is the one whose attributes are merged. -/
theorem mergeInto_eq (style : ScopeStyle) (metadata : Metadata) (outer : Option ScopePath) :
    style.mergeInto metadata outer =
      match style.applied? outer with
      | some rule =>
        metadata.set style.language style.kind rule.look.font
          (.ofNat rule.look.foreground) (.ofNat rule.look.background)
      | none => metadata.set style.language style.kind none 0 0 :=
  rfl

theorem mergeInto_of_applied? {style : ScopeStyle} {outer : Option ScopePath} {rule : Theme.Rule}
    (applied : style.applied? outer = some rule) (metadata : Metadata) :
    style.mergeInto metadata outer =
      metadata.set style.language style.kind rule.look.font
        (.ofNat rule.look.foreground) (.ofNat rule.look.background) := by
  rw [mergeInto_eq, applied]

end Style.ScopeStyle

namespace Theme

/-- Under a compiled theme, some rule applies to every scope. -/
theorem exists_applied (definition : ThemeDef) (languages : Languages) (scope : String)
    (outer : Option ScopePath) :
    ∃ rule, ((Styler.mk languages (ofDefinition definition)).styleOf scope).applied? outer =
      some rule := by
  obtain ⟨rule, mem, free⟩ := exists_rule_without_parents definition scope
  exact Option.isSome_iff_exists.mp
    (List.find?_isSome.mpr ⟨rule, mem, ScopeStyle.applies_of_parents_eq_nil outer free⟩)

/-- How specific rules are is a total order, up to rules that are equally specific. Under every
theme, some rule applies to a scope in any surroundings: its parents are found there, and no other
rule for the scope whose parents are found there is more specific. -/
theorem most_specific_rule_applies :
    TransCmp Rule.compareSpecificity ∧
    (∀ first second : Rule, first.compareSpecificity second = compare second.rank first.rank) ∧
    ∀ (definition : ThemeDef) (languages : Languages) (scope : String) (outer : Option ScopePath),
      let theme := ofDefinition definition
      let style := (Styler.mk languages theme).styleOf scope
      ∃ rule ∈ theme.rulesFor scope, style.applied? outer = some rule ∧
        ScopeStyle.applies outer rule = true ∧
        (∀ metadata : Metadata, style.mergeInto metadata outer =
          metadata.set style.language style.kind rule.look.font
            (.ofNat rule.look.foreground) (.ofNat rule.look.background)) ∧
        ∀ other ∈ theme.rulesFor scope, ScopeStyle.applies outer other = true →
          other.compareSpecificity rule ≠ .lt := by
  refine ⟨inferInstance, Rule.compareSpecificity_eq, fun definition languages scope outer => ?_⟩
  obtain ⟨rule, applied⟩ := exists_applied definition languages scope outer
  have found : ((ofDefinition definition).rulesFor scope).find? (ScopeStyle.applies outer) =
      some rule := applied
  refine ⟨rule, List.mem_of_find?_eq_some found, applied, List.find?_some found,
    ScopeStyle.mergeInto_of_applied? applied, ?_⟩
  rw [rulesFor_eq_scan] at found ⊢
  exact fun other mem too => Rule.not_lt_of_find?_sortBySpecificity found mem too

end Theme

end ScopeTokenizer
