import Mathlib.Data.List.FinRange
import Mathlib.Data.List.Pairwise
import Mathlib.Logic.Equiv.Basic
import ScopeTokenizer.Proofs.Theme.Defaults

/-!
# Themes with their entries in another order

Only entries for the same scope inside the same parents overwrite each other, and those without a
scope. All others may change places: sorting brings them into the same order, where they get the
same colors and lead to the same trie. What they keep of the place in which they were written is
looked at by sorting alone.
-/

namespace ScopeTokenizer.Theme

open Std Style Text

/-! ## Targets -/

/-- What an entry is for: a scope, and the scopes that have to enclose it. -/
def ScopedEntry.target (entry : ScopedEntry) : String × List String := (entry.scope, entry.parents)

/-- The order of targets: by scope, then by parents. -/
def compareTargets (first second : String × List String) : Ordering :=
  (compareText first.1 second.1).then (compareParents first.2 second.2)

theorem compareTargets_eq : compareTargets =
    compareLex (compareOn Prod.fst)
      (compareLex (compareOn fun target => target.2.length) (compareOn Prod.snd)) := by
  funext first second
  simp only [compareTargets, compareParents, compareTexts_eq]
  rfl

instance : TransCmp compareTargets := by
  rw [compareTargets_eq]
  infer_instance

instance : LawfulEqCmp compareTargets where
  eq_of_compare {first second} level := by
    obtain ⟨scopes, parents⟩ := Ordering.then_eq_eq.mp level
    obtain ⟨-, names⟩ := Ordering.then_eq_eq.mp parents
    rw [compareTexts_eq] at names
    refine Prod.ext ?_ (LawfulEqOrd.eq_of_compare names)
    exact LawfulEqOrd.eq_of_compare (α := String) scopes

theorem target_isLE_of_compare {first second : ScopedEntry}
    (le : (first.compare second).isLE = true) :
    (compareTargets first.target second.target).isLE = true := by
  have lexicographic : first.compare second =
      (compareTargets first.target second.target).then (compare first.index second.index) := rfl
  rw [lexicographic, Ordering.isLE_then_iff_or] at le
  rcases le with less | ⟨level, -⟩
  · rw [less]
    rfl
  · rw [level]
    rfl

/-- The entries for one target are sorted as they are written. -/
theorem filter_sortedEntries (definition : ThemeDef) (target : String × List String) :
    (sortedEntries definition).filter (·.target = target) =
      (scopedEntries definition).filter (·.target = target) := by
  refine filter_mergeSort (((pairwise_scopedEntries definition).filter _).imp_of_mem
    fun one other before => ?_)
  have same := (of_decide_eq_true (List.mem_filter.mp one).2).trans
    (of_decide_eq_true (List.mem_filter.mp other).2).symm
  exact isLE_compare_of_unscoped (congrArg Prod.fst same) (congrArg Prod.snd same) before

/-! ## Entries without their places -/

/-- An entry without its place in the theme. -/
def ScopedEntry.unplaced (entry : ScopedEntry) : ScopedEntry := { entry with index := 0 }

/-- Places serve for nothing but sorting. -/
theorem ofDefinition_eq_of_unplaced {first second : ThemeDef} (name : first.name = second.name)
    (same : (sortedEntries first).map ScopedEntry.unplaced =
      (sortedEntries second).map ScopedEntry.unplaced) :
    ofDefinition first = ofDefinition second := by
  have defaultsOf_eq (definition : ThemeDef) : defaultsOf definition =
      (((sortedEntries definition).map ScopedEntry.unplaced).takeWhile (·.scope == "")).foldl
        Defaults.update {} := by
    rw [List.takeWhile_map, List.foldl_map]
    rfl
  have added_eq (definition : ThemeDef) (state : ColorMap × Trie) :
      ((sortedEntries definition).filter (·.scope ≠ "")).foldl addEntry state =
        (((sortedEntries definition).map ScopedEntry.unplaced).filter (·.scope ≠ "")).foldl
          addEntry state := by
    rw [List.filter_map, List.foldl_map]
    rfl
  rw [ofDefinition_eq, ofDefinition_eq, name]
  simp only [added_eq, defaultsOf_eq, same]

theorem EntryDef.map_unplaced_parts (entry : EntryDef) (index : Nat) :
    (entry.parts index).map ScopedEntry.unplaced = entry.parts 0 := by
  unfold parts
  split
  · rfl
  · rw [List.map_map]
    rfl

/-- The targets of an entry. If it has no scope, there is one, with neither scope nor parents. -/
def EntryDef.targets (entry : EntryDef) : List (String × List String) :=
  (entry.parts 0).map ScopedEntry.target

/-- What a theme has for one target comes from the entries that have it. -/
theorem filter_scopedEntries (definition : ThemeDef) (target : String × List String) :
    ((scopedEntries definition).map ScopedEntry.unplaced).filter (·.target = target) =
      (definition.entries.filter (target ∈ ·.targets)).flatMap fun entry =>
        (entry.parts 0).filter (·.target = target) := by
  have unplaced : (scopedEntries definition).map ScopedEntry.unplaced =
      definition.entries.flatMap fun entry => entry.parts 0 := by
    rw [scopedEntries_eq, List.map_flatMap]
    simp only [EntryDef.map_unplaced_parts]
    rw [← List.flatMap_map (g := (EntryDef.parts · 0)), List.zipIdx_map_fst]
  rw [unplaced, List.filter_flatMap]
  induction definition.entries with
  | nil => rfl
  | cons entry entries ih =>
    rw [List.flatMap_cons, ih, List.filter_cons]
    split
    · rw [List.flatMap_cons]
    · next without =>
      have none : (entry.parts 0).filter (·.target = target) = [] := by
        refine List.filter_eq_nil_iff.mpr fun part mem is => without (decide_eq_true ?_)
        exact List.mem_map.mpr ⟨part, mem, of_decide_eq_true is⟩
      rw [none, List.nil_append]

/-- A theme is known by the entries that it has for each target, one after the other. -/
theorem ofDefinition_eq_of_filter {first second : ThemeDef} (name : first.name = second.name)
    (same : ∀ target, first.entries.filter (target ∈ ·.targets) =
      second.entries.filter (target ∈ ·.targets)) :
    ofDefinition first = ofDefinition second := by
  refine ofDefinition_eq_of_unplaced name ?_
  have sorted (definition : ThemeDef) :
      ((sortedEntries definition).map ScopedEntry.unplaced).Pairwise fun one other =>
        (compareTargets one.target other.target).isLE = true := by
    have ordered : (sortedEntries definition).Pairwise fun one other =>
        (one.compare other).isLE = true := pairwise_mergeSort_isLE _
    exact List.pairwise_map.mpr (ordered.imp target_isLE_of_compare)
  have parts (definition : ThemeDef) (target : String × List String) :
      ((sortedEntries definition).map ScopedEntry.unplaced).filter (·.target = target) =
        (definition.entries.filter (target ∈ ·.targets)).flatMap fun entry =>
          (entry.parts 0).filter (·.target = target) := by
    rw [← filter_scopedEntries, List.filter_map, List.filter_map]
    exact congrArg _ (filter_sortedEntries definition target)
  refine eq_of_filter_eq (sorted first) (sorted second) fun target => ?_
  rw [parts, parts, same]

/-! ## Rearranged entries -/

/-- The theme with the same entries in another order. `order` says for each place which entry is
moved there. -/
def ThemeDef.rearrange (definition : ThemeDef)
    (order : Equiv.Perm (Fin definition.entries.length)) : ThemeDef :=
  { definition with entries := List.ofFn fun place => definition.entries.get (order place) }

/-- Whether two entries share a target. -/
def EntryDef.Meets (first second : EntryDef) : Prop :=
  ∃ target ∈ first.targets, target ∈ second.targets

instance (first second : EntryDef) : Decidable (first.Meets second) :=
  inferInstanceAs (Decidable (∃ target ∈ first.targets, target ∈ second.targets))

theorem filter_rearrange {definition : ThemeDef}
    {order : Equiv.Perm (Fin definition.entries.length)} {keep : EntryDef → Bool}
    (kept : ∀ first second, first < second → keep (definition.entries.get (order first)) →
      keep (definition.entries.get (order second)) → order first < order second) :
    (definition.rearrange order).entries.filter keep = definition.entries.filter keep := by
  let keeps (place : Fin definition.entries.length) : Bool := keep (definition.entries.get place)
  have places : ((List.finRange _).map order).filter keeps = (List.finRange _).filter keeps := by
    refine List.Perm.eq_of_pairwise (fun _ _ _ _ before after => absurd after before.asymm) ?_
      ((List.pairwise_lt_finRange _).filter _) ((Equiv.Perm.map_finRange_perm order).filter _)
    rw [List.filter_map]
    refine List.pairwise_map.mpr (((List.pairwise_lt_finRange _).filter _).imp_of_mem
      fun one other before => ?_)
    exact kept _ _ before (List.mem_filter.mp one).2 (List.mem_filter.mp other).2
  have filter_eq (list : List (Fin definition.entries.length)) :
      (list.map definition.entries.get).filter keep =
        (list.filter keeps).map definition.entries.get := List.filter_map
  have moved : (definition.rearrange order).entries =
      ((List.finRange _).map order).map definition.entries.get := by
    rw [List.map_map]
    exact List.ofFn_eq_map
  rw [moved, filter_eq, places, ← filter_eq, List.map_get_finRange]

/-- Compiling a theme does not depend on the order of entries without a common target: if its entries
are put into another order, but those that share one stay in order, the theme is compiled to the
same. Its colors have the same numbers, it has the same defaults, and the same rules for each
scope. -/
theorem rearranged_theme_alike (definition : ThemeDef)
    (order : Equiv.Perm (Fin definition.entries.length))
    (kept : ∀ first second, first < second →
      (definition.entries.get (order first)).Meets (definition.entries.get (order second)) →
        order first < order second) :
    ofDefinition (definition.rearrange order) = ofDefinition definition := by
  refine ofDefinition_eq_of_filter rfl fun target =>
    filter_rearrange fun first second before one other => ?_
  exact kept first second before ⟨target, of_decide_eq_true one, of_decide_eq_true other⟩

/-- A theme in which the first and the last entry are for the same scope. -/
def recolored : ThemeDef where
  entries :=
    [ ⟨some ["comment"], some { foreground := some "#111111" }⟩,
      ⟨some ["string", "meta tag"], some { foreground := some "#222222" }⟩,
      ⟨some ["comment"], some { foreground := some "#333333" }⟩ ]

/-- The first two entries change places. -/
def swapFront : Equiv.Perm (Fin recolored.entries.length) := Equiv.swap (0 : Fin 3) (1 : Fin 3)

theorem rearranged_recolored :
    (recolored.rearrange swapFront).entries =
        [ ⟨some ["string", "meta tag"], some { foreground := some "#222222" }⟩,
          ⟨some ["comment"], some { foreground := some "#111111" }⟩,
          ⟨some ["comment"], some { foreground := some "#333333" }⟩ ] ∧
      ofDefinition (recolored.rearrange swapFront) = ofDefinition recolored := by
  have kept : ∀ first second, first < second →
      (recolored.entries.get (swapFront first)).Meets (recolored.entries.get (swapFront second)) →
        swapFront first < swapFront second := by
    decide +kernel
  exact ⟨by decide +kernel, rearranged_theme_alike recolored swapFront kept⟩

end ScopeTokenizer.Theme
