import Mathlib.Data.Finset.Card
import Mathlib.Data.Finset.Range
import Mathlib.Data.List.ReduceOption
import ScopeTokenizer.Grammar.Candidates

/-!
# Growing rule tables

Rules are added to a table whenever something of a grammar is met for the first time, also in
the middle of reading lines. The rules that were there before stay as they are, and refer only
to one another. So the patterns that a search inside one of them looks for do not change
either, although they are gathered through a table that has grown.
-/

namespace ScopeTokenizer.Grammar

open Pattern

/-- The rules that a pattern refers to. -/
def Matching.references (matching : Matching) : List RuleId := matching.captures.reduceOption

/-- The rules that a rule refers to, by what it does. -/
def RuleKind.references : RuleKind → List RuleId
  | .single matching => matching.references
  | .container _ inner => inner.patterns
  | .region _ opening closing _ inner =>
    opening.references ++ closing.references ++ inner.patterns
  | .lines _ opening condition inner =>
    opening.references ++ condition.references ++ inner.patterns
  | .capture _ rule => rule.toList

/-- The rules that a rule refers to. -/
def Rule.references (rule : Rule) : List RuleId := rule.kind.references

theorem Rule.mem_references_of_inner {rule : Rule} {ref : RuleId}
    (mem : ref ∈ rule.inner.patterns) : ref ∈ rule.references := by
  obtain ⟨id, name, kind⟩ := rule
  cases kind with
  | single | capture => cases mem
  | container => exact mem
  | region | lines => exact List.mem_append_right _ mem

namespace RuleTable

/-- Of two tables, the second one has the rules of the first one and others behind them. -/
structure Grows (before after : RuleTable) : Prop where
  size_le : before.size ≤ after.size
  kept : ∀ id, id ≤ before.size → after.rule? id = before.rule? id

/-- A table whose rules have their own numbers, and refer to rules of the table. -/
structure Closed (table : RuleTable) : Prop where
  id_eq : ∀ id rule, table.rule? id = some rule → rule.id = id
  references_le : ∀ id rule, table.rule? id = some rule →
    ∀ ref ∈ rule.references, ref ≤ table.size

variable {table before after last : RuleTable} {id : RuleId} {rule : Rule}

theorem Grows.refl (table : RuleTable) : table.Grows table := ⟨Nat.le_refl _, fun _ _ => rfl⟩

theorem Grows.trans (first : before.Grows after) (second : after.Grows last) :
    before.Grows last := by
  constructor
  · exact Nat.le_trans first.size_le second.size_le
  · intro id le
    rw [second.kept id (Nat.le_trans le first.size_le), first.kept id le]

theorem le_size_of_rule? (found : table.rule? id = some rule) : id ≤ table.size := by
  cases id with
  | zero => exact Nat.zero_le _
  | succ index =>
    obtain ⟨slot, -⟩ := Array.getElem?_eq_some_iff.mp (Option.join_eq_some_iff.mp found)
    exact slot

/-! ## Adding rules -/

@[simp] theorem reserve_fst (table : RuleTable) : table.reserve.1 = table.size + 1 := rfl

/-- The place of the next number is empty. -/
theorem rule?_reserve (table : RuleTable) (id : RuleId) :
    table.reserve.2.rule? id = table.rule? id := by
  cases id with
  | zero => rfl
  | succ index =>
    simp only [rule?, reserve, Array.getElem?_push]
    split
    · next last =>
      rw [last, Array.getElem?_eq_none (Nat.le_refl _)]
      rfl
    · rfl

theorem grows_reserve (table : RuleTable) : table.Grows table.reserve.2 := by
  constructor
  · rw [size_reserve]
    exact Nat.le_succ _
  · intro id le
    exact table.rule?_reserve id

theorem Closed.reserve (closed : table.Closed) : table.reserve.2.Closed := by
  constructor
  · intro id rule found
    rw [rule?_reserve] at found
    exact closed.id_eq id rule found
  · intro id rule found ref mem
    rw [rule?_reserve] at found
    rw [size_reserve]
    exact Nat.le_succ_of_le (closed.references_le id rule found ref mem)

theorem rule?_put_self (table : RuleTable) {rule : Rule} (positive : 0 < rule.id)
    (le : rule.id ≤ table.size) : (table.put rule).rule? rule.id = some rule := by
  obtain ⟨id, name, kind⟩ := rule
  cases id with
  | zero => exact absurd positive (Nat.lt_irrefl 0)
  | succ index =>
    have inside : index < table.slots.size := le
    simp only [rule?, put]
    rw [Nat.succ_sub_one, Array.getElem?_setIfInBounds_self_of_lt inside]
    rfl

theorem rule?_put_of_ne (table : RuleTable) {rule : Rule} (other : id ≠ rule.id)
    (positive : 0 < rule.id) : (table.put rule).rule? id = table.rule? id := by
  cases id with
  | zero => rfl
  | succ index =>
    have apart : rule.id - 1 ≠ index := by
      intro same
      rw [← same] at other
      exact other (Nat.sub_add_cancel positive)
    simp only [rule?, put]
    rw [Array.getElem?_setIfInBounds_ne apart]

theorem Closed.put (closed : table.Closed) {rule : Rule} (positive : 0 < rule.id)
    (le : rule.id ≤ table.size) (references : ∀ ref ∈ rule.references, ref ≤ table.size) :
    (table.put rule).Closed := by
  constructor
  · intro id other found
    by_cases same : id = rule.id
    · rw [same, rule?_put_self table positive le] at found
      rw [← Option.some.inj found, same]
    · rw [rule?_put_of_ne table same positive] at found
      exact closed.id_eq id other found
  · intro id other found ref mem
    rw [size_put]
    by_cases same : id = rule.id
    · rw [same, rule?_put_self table positive le] at found
      rw [← Option.some.inj found] at mem
      exact references ref mem
    · rw [rule?_put_of_ne table same positive] at found
      exact closed.references_le id other found ref mem

/-- Filling a place that came after the rules of a table leaves those as they are. -/
theorem Grows.put (grows : before.Grows after) {rule : Rule} (behind : before.size < rule.id) :
    before.Grows (after.put rule) := by
  constructor
  · rw [size_put]
    exact grows.size_le
  · intro id le
    have apart : id ≠ rule.id := Nat.ne_of_lt (Nat.lt_of_le_of_lt le behind)
    rw [rule?_put_of_ne after apart (Nat.zero_lt_of_lt behind)]
    exact grows.kept id le

end RuleTable

/-! ## Numbers not met -/

/-- How many numbers up to a bound are not in a list. -/
def unmet (bound : Nat) (met : List RuleId) : Nat :=
  ((Finset.range (bound + 1)).filter fun id => id ∉ met).card

theorem unmet_le_of_subset {bound : Nat} {met more : List RuleId} (subset : met ⊆ more) :
    unmet bound more ≤ unmet bound met := by
  refine Finset.card_le_card fun id mem => ?_
  rw [Finset.mem_filter] at mem ⊢
  exact ⟨mem.1, fun old => mem.2 (subset old)⟩

/-- Meeting a number for the first time leaves fewer of them. -/
theorem unmet_cons_lt {bound : Nat} {met : List RuleId} {id : RuleId} (le : id ≤ bound)
    (fresh : id ∉ met) : unmet bound (id :: met) < unmet bound met := by
  refine Finset.card_lt_card ⟨fun other mem => ?_, fun subset => ?_⟩
  · rw [Finset.mem_filter] at mem ⊢
    exact ⟨mem.1, fun old => mem.2 (List.mem_cons_of_mem _ old)⟩
  · have mem : id ∈ (Finset.range (bound + 1)).filter fun id => id ∉ met :=
      Finset.mem_filter.mpr ⟨Finset.mem_range.mpr (Nat.lt_succ_of_le le), fresh⟩
    exact (Finset.mem_filter.mp (subset mem)).2 List.mem_cons_self

theorem unmet_le (bound : Nat) (met : List RuleId) : unmet bound met ≤ bound + 1 := by
  have below := Finset.card_filter_le (Finset.range (bound + 1)) fun id => id ∉ met
  rwa [Finset.card_range] at below

namespace RuleTable

variable {table before after : RuleTable}

/-! ## Gathering -/

/-- Gathering forgets no container. -/
theorem containers_subset_gather (table : RuleTable) (depth : Nat) (gathering : Gathering)
    (id : RuleId) : gathering.containers ⊆ (table.gather depth gathering id).containers := by
  induction depth generalizing gathering id with
  | zero => exact List.Subset.refl _
  | succ depth ih =>
    simp only [gather]
    split
    · exact List.Subset.refl _
    · split
      · exact List.Subset.refl _
      · split
        · split
          · exact List.Subset.refl _
          · refine List.foldlRecOn _ (table.gather depth)
              (motive := fun more => gathering.containers ⊆ more.containers) ?_
              fun more subset id _ => List.Subset.trans subset (ih more id)
            exact List.subset_cons_self id _
        · exact List.Subset.refl _

/-- All that was gathered are rules of the table. -/
def Gathers (table : RuleTable) (gathering : Gathering) : Prop :=
  ∀ entry ∈ gathering.found, entry.1 ≤ table.size

theorem Gathers.gather {gathering : Gathering} (known : table.Gathers gathering) (depth : Nat)
    (id : RuleId) : table.Gathers (table.gather depth gathering id) := by
  induction depth generalizing gathering id with
  | zero => exact known
  | succ depth ih =>
    simp only [RuleTable.gather]
    split
    · exact known
    · next rule found =>
      split
      · intro entry mem
        rcases List.mem_append.mp mem with mem | mem
        · exact known entry mem
        · obtain rfl := List.mem_singleton.mp mem
          exact le_size_of_rule? found
      · split
        · split
          · exact known
          · exact List.foldlRecOn _ (table.gather depth) (motive := table.Gathers) known
              fun _ known id _ => ih known id
        · exact known

theorem foldl_gather_eq_of {depth other : Nat}
    (each : ∀ gathering id, id ≤ before.size → unmet before.size gathering.containers < depth →
      unmet before.size gathering.containers < other →
      after.gather other gathering id = before.gather depth gathering id)
    {ids : List RuleId} {gathering : Gathering} (le : ∀ id ∈ ids, id ≤ before.size)
    (enough : unmet before.size gathering.containers < depth)
    (plenty : unmet before.size gathering.containers < other) :
    ids.foldl (after.gather other) gathering = ids.foldl (before.gather depth) gathering := by
  induction ids generalizing gathering with
  | nil => rfl
  | cons id ids rest =>
    have fewer : unmet before.size (before.gather depth gathering id).containers ≤
        unmet before.size gathering.containers :=
      unmet_le_of_subset (before.containers_subset_gather depth gathering id)
    rw [List.foldl_cons, List.foldl_cons,
      each gathering id (le id List.mem_cons_self) enough plenty]
    exact rest (fun id mem => le id (List.mem_cons_of_mem _ mem))
      (Nat.lt_of_le_of_lt fewer enough) (Nat.lt_of_le_of_lt fewer plenty)

/-- What is gathered depends neither on further rules, nor on the depth if that suffices. -/
theorem gather_eq (closed : before.Closed) (grows : before.Grows after) {depth other : Nat}
    {gathering : Gathering} {id : RuleId} (le : id ≤ before.size)
    (enough : unmet before.size gathering.containers < depth)
    (plenty : unmet before.size gathering.containers < other) :
    after.gather other gathering id = before.gather depth gathering id := by
  induction depth generalizing other gathering id with
  | zero => exact absurd enough (Nat.not_lt_zero _)
  | succ depth ih =>
    obtain ⟨other, rfl⟩ : ∃ n, other = n + 1 := ⟨other - 1, by omega⟩
    simp only [gather]
    rw [grows.kept id le]
    cases found : before.rule? id with
    | none => rfl
    | some rule =>
      simp only
      cases leading : rule.leading? with
      | some source => rfl
      | none =>
        simp only
        cases kind : rule.kind with
        | single | region | lines | capture => rfl
        | container contentName inner =>
          simp only
          split
          · rfl
          · next fresh =>
            -- A container that was not met before leaves one less, so a depth less suffices.
            have fewer := unmet_cons_lt le (by simpa using fresh)
            have inside : ∀ ref ∈ inner.patterns, ref ≤ before.size := by
              intro ref mem
              refine closed.references_le id rule found ref (Rule.mem_references_of_inner ?_)
              rwa [Rule.inner, kind]
            exact foldl_gather_eq_of (fun _ _ le enough plenty => ih le enough plenty) inside
              (Nat.lt_of_lt_of_le fewer (Nat.le_of_lt_succ enough))
              (Nat.lt_of_lt_of_le fewer (Nat.le_of_lt_succ plenty))

/-- The rules that take part in a search stay the same when a table grows. -/
theorem Grows.taking_eq (grows : before.Grows after) (closed : before.Closed) {id : RuleId}
    (le : id ≤ before.size) : after.taking id = before.taking id := by
  simp only [taking]
  rw [grows.kept id le]
  cases found : before.rule? id with
  | none => rfl
  | some rule =>
    have inside : ∀ ref ∈ rule.inner.patterns, ref ≤ before.size := fun ref mem =>
      closed.references_le id rule found ref (Rule.mem_references_of_inner mem)
    have started : unmet before.size [id] < before.size + 1 :=
      Nat.lt_of_lt_of_le (unmet_cons_lt le List.not_mem_nil) (unmet_le _ _)
    have plenty : unmet before.size [id] < after.size + 1 :=
      Nat.lt_of_lt_of_le started (Nat.succ_le_succ grows.size_le)
    simp only
    rw [foldl_gather_eq_of (fun _ _ le enough plenty => gather_eq closed grows le enough plenty)
      inside started plenty]

theorem Grows.candidates_eq (grows : before.Grows after) (closed : before.Closed) {id : RuleId}
    (le : id ≤ before.size) (anchors : Anchors) :
    after.candidates id anchors = before.candidates id anchors := by
  simp only [candidates]
  rw [grows.taking_eq closed le]

/-- Only rules of the table take part in a search. -/
theorem le_of_mem_candidates {id : RuleId} {anchors : Anchors} {entry : RuleId × String}
    (mem : entry ∈ table.candidates id anchors) : entry.1 ≤ table.size := by
  obtain ⟨⟨ref, source⟩, taking, rfl⟩ := List.mem_map.mp mem
  simp only [RuleTable.taking] at taking
  cases found : table.rule? id with
  | none =>
    rw [found] at taking
    cases taking
  | some rule =>
    have gathers : table.Gathers
        (rule.inner.patterns.foldl (table.gather (table.size + 1)) { containers := [id] }) :=
      List.foldlRecOn _ _ (motive := table.Gathers) nofun fun _ known id _ => known.gather _ id
    rw [found] at taking
    simp only at taking
    split at taking
    · obtain ⟨rfl, rfl⟩ := Prod.mk.inj (List.mem_singleton.mp taking)
      exact le_size_of_rule? found
    · exact gathers _ taking

end RuleTable

end ScopeTokenizer.Grammar
