import Mathlib.Order.Compare
import ScopeTokenizer.Theme.Basic

/-!
# The order of theme entries

Entries are compiled in the order of their scopes as texts, without regard to the segments. Still a
scope comes before all scopes inside it: up to the first dot that it does not have, their texts are
the same.
-/

namespace ScopeTokenizer.Theme

open Std Style Text

/-! ## Paths as texts -/

/-- The text of a path. -/
def textOfPath (path : List String) : List Char := ['.'].intercalate (path.map String.toList)

theorem textOfPath_splitAt (scope : String) : textOfPath (splitAt '.' scope) = scope.toList := by
  have back : String.toList ∘ String.ofList = id := funext fun _ => String.toList_ofList
  rw [textOfPath, splitAt, List.map_map, back, List.map_id]
  exact intercalate_pieces '.' scope.toList

theorem textOfPath_append (segment : String) (path : List String) (next : String)
    (rest : List String) :
    textOfPath (segment :: path ++ next :: rest) =
      textOfPath (segment :: path) ++ '.' :: textOfPath (next :: rest) := by
  induction path generalizing segment with
  | nil => simp [textOfPath, List.intercalate_cons_cons]
  | cons other path ih =>
    have first (later : List String) : textOfPath (segment :: other :: later) =
        segment.toList ++ ['.'] ++ textOfPath (other :: later) := by
      simp [textOfPath, List.intercalate_cons_cons]
    rw [List.cons_append, List.cons_append, first, first, ← List.cons_append, ih]
    simp

/-- A path lacks at most an empty segment at the end. -/
theorem dropEmptyEnd_cases (segments : List String) :
    segments = dropEmptyEnd segments ∨ segments = dropEmptyEnd segments ++ [""] := by
  fun_induction dropEmptyEnd segments with
  | case1 => exact .inl rfl
  | case2 => exact .inr rfl
  | case3 segment filled => exact .inl rfl
  | case4 segment rest _ ih => exact ih.imp (congrArg (segment :: ·)) (congrArg (segment :: ·))

theorem textOf_pathOf (scope : String) : scope.toList = textOfPath (pathOf scope) ∨
    scope.toList = textOfPath (pathOf scope ++ [""]) := by
  rw [← textOfPath_splitAt scope]
  exact (dropEmptyEnd_cases (splitAt '.' scope)).imp (congrArg textOfPath) (congrArg textOfPath)

/-- A scope begins with the text of each scope around it. -/
theorem toList_prefix_of_pathOf {outer inner : String} {next : String} {rest : List String}
    (inside : pathOf inner = pathOf outer ++ next :: rest) : outer.toList <+: inner.toList := by
  have longer : ∃ rest, inner.toList = textOfPath (pathOf outer ++ next :: rest) := by
    rcases textOf_pathOf inner with is | is
    · exact ⟨rest, inside ▸ is⟩
    · exact ⟨rest ++ [""], by rw [is, inside, List.append_assoc, List.cons_append]⟩
  obtain ⟨rest, longer⟩ := longer
  rw [longer]
  cases path : pathOf outer with
  | nil =>
    rcases textOf_pathOf outer with is | is
    · rw [is, path]
      exact List.nil_prefix
    · rw [is, path]
      exact List.nil_prefix
  | cons segment path' =>
    rw [textOfPath_append]
    rcases textOf_pathOf outer with is | is
    · rw [is, path]
      exact List.prefix_append _ _
    · rw [is, path, textOfPath_append]
      exact List.prefix_append_right_inj _ |>.mpr (List.cons_prefix_cons.mpr ⟨rfl, List.nil_prefix⟩)

/-- A scope comes before all scopes inside it. -/
theorem lt_of_pathOf_isPrefix {outer inner : String} (around : pathOf outer <+: pathOf inner)
    (apart : pathOf outer ≠ pathOf inner) : outer < inner := by
  obtain ⟨below, inside⟩ := around
  cases below with
  | nil => exact absurd ((List.append_nil _).symm.trans inside) apart
  | cons next rest =>
    have le : outer ≤ inner :=
      String.not_lt.mp fun above =>
        (toList_prefix_of_pathOf inside.symm).le (String.lt_iff.mp above)
    refine Decidable.byContradiction fun notBelow => apart ?_
    rw [String.le_antisymm le (String.not_lt.mp notBelow)]

/-! ## Sorted entries -/

theorem isLE_total {α : Type} {cmp : α → α → Ordering} [OrientedCmp cmp] (a b : α) :
    ((cmp a b).isLE || (cmp b a).isLE) = true := by
  have swapped : cmp b a = (cmp a b).swap := OrientedCmp.eq_swap
  rw [swapped]
  cases cmp a b <;> rfl

/-- Sorting by a comparison sorts, if the comparison is an order. -/
theorem pairwise_mergeSort_isLE {α : Type} {cmp : α → α → Ordering} [TransCmp cmp]
    (list : List α) :
    (list.mergeSort fun a b => (cmp a b).isLE).Pairwise fun a b => (cmp a b).isLE = true :=
  List.pairwise_mergeSort (fun _ _ _ => TransCmp.isLE_trans) isLE_total list

/-- Sorting is stable: what stands in order among itself, it leaves like that. -/
theorem filter_mergeSort {α : Type} {cmp : α → α → Ordering} [TransCmp cmp] {list : List α}
    {keep : α → Bool}
    (ordered : (list.filter keep).Pairwise fun a b => (cmp a b).isLE = true) :
    (list.mergeSort fun a b => (cmp a b).isLE).filter keep = list.filter keep := by
  have kept := (List.sublist_mergeSort (fun _ _ _ => TransCmp.isLE_trans) isLE_total ordered
    List.filter_sublist).filter keep
  rw [List.filter_filter] at kept
  simp only [Bool.and_self] at kept
  exact (kept.eq_of_length ((List.mergeSort_perm _ _).filter _).length_eq.symm).symm

/-- A list that is sorted by a key is known by what it has of each key. -/
theorem eq_of_filter_eq {α κ : Type} [DecidableEq κ] {cmp : κ → κ → Ordering} [TransCmp cmp]
    [LawfulEqCmp cmp] {key : α → κ} {first second : List α}
    (sorted : first.Pairwise fun a b => (cmp (key a) (key b)).isLE = true)
    (too : second.Pairwise fun a b => (cmp (key a) (key b)).isLE = true)
    (same : ∀ rank, first.filter (key · = rank) = second.filter (key · = rank)) :
    first = second := by
  have members {first second : List α}
      (same : ∀ rank, first.filter (key · = rank) = second.filter (key · = rank)) (a : α) :
      a ∈ first ↔ a ∈ second := by
    have both := congrArg (a ∈ ·) (same (key a))
    simpa only [List.mem_filter, decide_true, and_true, eq_iff_iff] using both
  induction first generalizing second with
  | nil =>
    exact (List.eq_nil_iff_forall_not_mem.mpr fun a mem =>
      List.not_mem_nil ((members same a).mpr mem)).symm
  | cons a first ih =>
    cases second with
    | nil => exact absurd ((members same a).mp List.mem_cons_self) List.not_mem_nil
    | cons b second =>
      have itself (rank : κ) : (cmp rank rank).isLE = true := ReflCmp.isLE_rfl
      have before : ∀ other ∈ a :: first, (cmp (key a) (key other)).isLE = true :=
        List.forall_mem_cons.mpr ⟨itself _, (List.pairwise_cons.mp sorted).1⟩
      have ahead : ∀ other ∈ b :: second, (cmp (key b) (key other)).isLE = true :=
        List.forall_mem_cons.mpr ⟨itself _, (List.pairwise_cons.mp too).1⟩
      have level : key a = key b := LawfulEqCmp.eq_of_compare (OrientedCmp.isLE_antisymm
        (before b ((members same b).mpr List.mem_cons_self))
        (ahead a ((members same a).mp List.mem_cons_self)))
      have heads := same (key b)
      simp only [List.filter_cons, level, decide_true, if_pos] at heads
      obtain ⟨rfl, -⟩ := List.cons.inj heads
      refine congrArg (a :: ·) (ih sorted.of_cons too.of_cons fun rank => ?_)
      have tails := same rank
      rw [List.filter_cons, List.filter_cons] at tails
      split at tails
      · exact (List.cons.inj tails).2
      · exact tails

theorem compareTexts_eq (first second : List String) :
    compareTexts first second = compare first second := by
  rw [List.compare_eq_compareLex]
  induction first generalizing second with
  | nil => cases second <;> rfl
  | cons a first ih =>
    cases second with
    | nil => rfl
    | cons b second =>
      rw [compareTexts, ih, List.compareLex_cons_cons]
      rfl

/-- The order of entries looks at the scopes first. -/
theorem compare_eq_compareLex : ScopedEntry.compare =
    compareLex
      (compareLex (compareOn ScopedEntry.scope)
        (compareLex (compareOn fun entry => entry.parents.length) (compareOn ScopedEntry.parents)))
      (compareOn ScopedEntry.index) := by
  funext first second
  simp only [ScopedEntry.compare, compareParents, compareTexts_eq]
  rfl

instance : TransCmp ScopedEntry.compare := by
  rw [compare_eq_compareLex]
  infer_instance

theorem scope_le_of_compare {first second : ScopedEntry}
    (le : (first.compare second).isLE = true) : first.scope ≤ second.scope := by
  refine String.not_lt.mp fun above => ?_
  have after : compareText first.scope second.scope = .gt := by
    rw [compareText, if_neg (String.lt_asymm above), if_neg]
    exact fun same => String.lt_irrefl _ (same ▸ above)
  rw [ScopedEntry.compare, after] at le
  cases le

theorem pairwise_sortedEntries (definition : ThemeDef) :
    (sortedEntries definition).Pairwise fun first second => first.scope ≤ second.scope :=
  (pairwise_mergeSort_isLE _).imp scope_le_of_compare

end ScopeTokenizer.Theme
