import Mathlib.Data.List.Induction
import ScopeTokenizer.Grammar.Library

/-!
# Changes of a library

A library comes from an empty one by adding grammars and by asking for injections. A version of a
grammar that is added takes the place of the one before it, but it takes back nothing that was asked
for. So the versions that are replaced leave nothing but the injections that they have asked for.
-/

namespace ScopeTokenizer.Grammar

open Text

/-- What is done to the grammars that are known. -/
inductive Change where
  | add (grammar : GrammarDef)
  | inject (target injector : String)

namespace Change

/-- The version of a grammar that is added. One without a scope name is refused. -/
def version? : Change → Option GrammarDef
  | add grammar => if grammar.scopeName.isEmpty then none else some grammar
  | inject _ _ => none

/-- Which grammars are to be injected, each after the one into which it is. -/
def asked : Change → List (String × String)
  | add grammar =>
    if grammar.scopeName.isEmpty then []
    else grammar.injectTo.map fun target => (target, grammar.scopeName)
  | inject target injector => [(target, injector)]

/-- All versions of grammars, in the order in which they are added. -/
def versions (changes : List Change) : List GrammarDef := changes.filterMap version?

/-- The version of a grammar that is added last. -/
def lastVersion? (changes : List Change) (scope : String) : Option GrammarDef :=
  (versions changes).reverse.find? fun grammar => grammar.scopeName = scope

/-- The grammars that are to be injected into one, in the order in which that is asked for. -/
def askers (changes : List Change) (target : String) : List String :=
  ((changes.flatMap asked).filter fun entry => entry.1 = target).map Prod.snd

/-- Whether a version of a grammar is added. -/
def Adds (changes : List Change) (scope : String) : Prop :=
  ∃ version ∈ versions changes, version.scopeName = scope

instance (changes : List Change) (scope : String) : Decidable (Adds changes scope) :=
  inferInstanceAs (Decidable (∃ version ∈ versions changes, version.scopeName = scope))

/-- What is left of a change when others come later: a version that is replaced by one of them leaves
only what it has asked for. -/
def remnant (later : List Change) (change : Change) : List Change :=
  if change.version?.any fun version => Adds later version.scopeName then
    change.asked.map fun entry => .inject entry.1 entry.2
  else [change]

/-- The changes without the versions of grammars that are replaced later. -/
def settled : List Change → List Change
  | [] => []
  | change :: later => remnant later change ++ settled later

/-- No version gives up a target that an earlier version of the same grammar has asked for. -/
def Retaining (changes : List Change) : Prop :=
  ∀ version ∈ versions changes, ∀ last, lastVersion? changes version.scopeName = some last →
    version.injectTo ⊆ last.injectTo

variable {changes later : List Change} {change : Change} {version : GrammarDef}
  {scope target injector : String}

/-! ## Versions -/

theorem eq_add_of_version? (is : change.version? = some version) :
    change = .add version ∧ version.scopeName.isEmpty = false := by
  cases change with
  | add grammar =>
    simp only [version?, Option.ite_none_left_eq_some] at is
    obtain ⟨named, is⟩ := is
    cases is
    exact ⟨rfl, Bool.eq_false_iff.mpr named⟩
  | inject => cases is

theorem versions_append (changes : List Change) (change : Change) :
    versions (changes ++ [change]) = versions changes ++ change.version?.toList := by
  unfold versions
  rw [List.filterMap_append]
  cases is : change.version? <;> simp [is]

theorem lastVersion?_append (changes : List Change) (change : Change) (scope : String) :
    lastVersion? (changes ++ [change]) scope =
      (change.version?.filter fun version => version.scopeName = scope).or
        (lastVersion? changes scope) := by
  unfold lastVersion?
  rw [versions_append, List.reverse_append, List.find?_append]
  cases change.version? with
  | none => rfl
  | some version =>
    by_cases is : version.scopeName = scope <;> simp [Option.filter, is]

theorem askers_append (changes : List Change) (change : Change) (target : String) :
    askers (changes ++ [change]) target =
      askers changes target ++
        (change.asked.filter fun entry => entry.1 = target).map Prod.snd := by
  simp [askers]

theorem mem_askers : injector ∈ askers changes target ↔
    ∃ change ∈ changes, (target, injector) ∈ change.asked := by
  simp only [askers, List.mem_map, List.mem_filter, List.mem_flatMap, decide_eq_true_eq]
  constructor
  · rintro ⟨⟨_, _⟩, ⟨⟨change, mem, asks⟩, rfl⟩, rfl⟩
    exact ⟨change, mem, asks⟩
  · rintro ⟨change, mem, asks⟩
    exact ⟨_, ⟨⟨change, mem, asks⟩, rfl⟩, rfl⟩

theorem mem_versions : version ∈ versions changes ↔
    .add version ∈ changes ∧ version.scopeName.isEmpty = false := by
  constructor
  · intro mem
    obtain ⟨change, mem, is⟩ := List.mem_filterMap.mp mem
    obtain ⟨rfl, named⟩ := eq_add_of_version? is
    exact ⟨mem, named⟩
  · rintro ⟨mem, named⟩
    exact List.mem_filterMap.mpr ⟨_, mem, by simp [version?, named]⟩

theorem mem_versions_of_lastVersion? (last : lastVersion? changes scope = some version) :
    version ∈ versions changes ∧ version.scopeName = scope := by
  have mem := List.mem_of_find?_eq_some last
  have named := List.find?_some last
  exact ⟨List.mem_reverse.mp mem, of_decide_eq_true named⟩

theorem exists_lastVersion? (mem : version ∈ versions changes) :
    ∃ last, lastVersion? changes version.scopeName = some last := by
  apply Option.isSome_iff_exists.mp
  exact List.find?_isSome.mpr ⟨version, List.mem_reverse.mpr mem, decide_eq_true rfl⟩

/-- As long as no target is given up, only what the last versions ask for counts. -/
theorem mem_askers_of_retaining (retaining : Retaining changes) : injector ∈ askers changes target ↔
    .inject target injector ∈ changes ∨
      ∃ last, lastVersion? changes injector = some last ∧ target ∈ last.injectTo := by
  rw [mem_askers]
  constructor
  · rintro ⟨change, mem, asks⟩
    cases change with
    | inject target' injector' =>
      cases List.mem_singleton.mp asks
      exact .inl mem
    | add grammar =>
      simp only [asked] at asks
      split at asks
      · cases asks
      · next named =>
        obtain ⟨target, wanted, is⟩ := List.mem_map.mp asks
        cases is
        have version := mem_versions.mpr ⟨mem, Bool.eq_false_iff.mpr named⟩
        obtain ⟨last, is⟩ := exists_lastVersion? version
        exact .inr ⟨last, is, retaining grammar version last is wanted⟩
  · rintro (mem | ⟨last, is, wanted⟩)
    · exact ⟨_, mem, List.mem_singleton.mpr rfl⟩
    · obtain ⟨version, rfl⟩ := mem_versions_of_lastVersion? is
      obtain ⟨mem, named⟩ := mem_versions.mp version
      refine ⟨_, mem, ?_⟩
      rw [asked, named]
      exact List.mem_map_of_mem wanted

/-! ## Only the last versions -/

/-- A version that is replaced is not added any more. -/
theorem versions_remnant (later : List Change) (change : Change) :
    versions (remnant later change) =
      change.version?.toList.filter fun version => ¬ Adds later version.scopeName := by
  unfold remnant
  cases is : change.version? with
  | none => simp [versions, is]
  | some version =>
    by_cases adds : Adds later version.scopeName
    · simp [versions, adds, version?]
    · simp [versions, adds, is]

theorem versions_settled (later : List Change) (change : Change) :
    versions (settled (change :: later)) =
      (change.version?.toList.filter fun version => ¬ Adds later version.scopeName) ++
        versions (settled later) := by
  rw [← versions_remnant]
  exact List.filterMap_append

theorem versions_settled_subset (changes : List Change) :
    versions (settled changes) ⊆ versions changes := by
  induction changes with
  | nil => exact List.Subset.refl _
  | cons change later ih =>
    rw [versions_settled]
    intro version mem
    rcases List.mem_append.mp mem with here | there
    · have is : change.version? = some version := Option.mem_toList.mp (List.mem_filter.mp here).1
      exact List.mem_filterMap.mpr ⟨change, List.mem_cons_self, is⟩
    · obtain ⟨other, among, is⟩ := List.mem_filterMap.mp (ih there)
      exact List.mem_filterMap.mpr ⟨other, List.mem_cons_of_mem _ among, is⟩

/-- No grammar is added twice. -/
theorem nodup_settled (changes : List Change) :
    ((versions (settled changes)).map GrammarDef.scopeName).Nodup := by
  induction changes with
  | nil => exact List.nodup_nil
  | cons change later ih =>
    rw [versions_settled]
    cases change.version? with
    | none => exact ih
    | some version =>
      by_cases adds : Adds later version.scopeName
      · simpa [adds] using ih
      · have fresh : version.scopeName ∉ (versions (settled later)).map GrammarDef.scopeName := by
          intro mem
          obtain ⟨other, among, same⟩ := List.mem_map.mp mem
          exact adds ⟨other, versions_settled_subset later among, same⟩
        simpa [adds] using List.nodup_cons.mpr ⟨fresh, ih⟩

end Change

namespace Library

variable (library : Library) {changes later : List Change} {change : Change}
  {scope target injector : String}

/-! ## Changes of a library -/

/-- Has grammars injected into others. -/
def injectAll (asked : List (String × String)) : Library :=
  asked.foldl (fun library entry => library.inject entry.1 entry.2) library

/-- Puts a version in place of the one with the same scope name. -/
def put (version : GrammarDef) : Library :=
  { library with grammars := library.grammars.insert version.scopeName version }

/-- A library after a change. -/
def apply (change : Change) : Library :=
  match change.version? with
  | some version => (library.injectAll change.asked).put version
  | none => library.injectAll change.asked

/-- A library after some changes. -/
def applyAll (changes : List Change) : Library := changes.foldl apply library

theorem injectorsOf_inject (target injector other : String) :
    (library.inject target injector).injectorsOf other =
      if target = other ∧ injector ∉ library.injectorsOf other then
        library.injectorsOf other ++ [injector]
      else library.injectorsOf other := by
  unfold inject
  dsimp only
  split
  · next already =>
    rw [if_neg]
    rintro ⟨rfl, new⟩
    exact new (List.contains_iff_mem.mp already)
  · next new =>
    have new : injector ∉ library.injectorsOf target :=
      fun mem => new (List.contains_iff_mem.mpr mem)
    by_cases is : target = other
    · subst is
      rw [if_pos ⟨rfl, new⟩]
      simp [injectorsOf]
    · simp [injectorsOf, is]

/-- Whoever has asked before is not added again. -/
theorem injectorsOf_injectAll {library : Library} {known : List String}
    (is : library.injectorsOf target = known.eraseDups) (asked : List (String × String)) :
    (library.injectAll asked).injectorsOf target =
      (known ++ (asked.filter fun entry => entry.1 = target).map Prod.snd).eraseDups := by
  induction asked generalizing library known with
  | nil => simpa [injectAll] using is
  | cons entry asked ih =>
    have next : (library.inject entry.1 entry.2).injectorsOf target =
        (known ++ ([entry].filter fun entry => entry.1 = target).map Prod.snd).eraseDups := by
      rw [injectorsOf_inject, is]
      by_cases here : entry.1 = target
      · by_cases already : entry.2 ∈ known <;>
          simp [here, already, List.eraseDups_append, List.removeAll, List.eraseDups_cons]
      · simp [here]
    rw [injectAll, List.foldl_cons]
    refine (ih next).trans ?_
    rw [List.append_assoc, ← List.map_append, ← List.filter_append, List.singleton_append]

theorem grammars_injectAll (asked : List (String × String)) :
    (library.injectAll asked).grammars = library.grammars := by
  unfold injectAll
  induction asked generalizing library with
  | nil => rfl
  | cons entry asked ih => rw [List.foldl_cons, ih, grammars_inject]

theorem inject_put (version : GrammarDef) (target injector : String) :
    (library.put version).inject target injector = (library.inject target injector).put version := by
  have same : (library.put version).injectorsOf target = library.injectorsOf target := rfl
  unfold inject
  rw [same]
  dsimp only
  split <;> rfl

theorem injectAll_put (version : GrammarDef) (asked : List (String × String)) :
    (library.put version).injectAll asked = (library.injectAll asked).put version := by
  unfold injectAll
  induction asked generalizing library with
  | nil => rfl
  | cons entry asked ih => rw [List.foldl_cons, inject_put, ih, List.foldl_cons]

theorem put_put_of_eq {first second : GrammarDef} (same : first.scopeName = second.scopeName) :
    (library.put first).put second = library.put second := by
  simp only [put]
  rw [same, Keyed.insert_insert]

theorem put_comm {first second : GrammarDef} (apart : first.scopeName ≠ second.scopeName) :
    (library.put first).put second = (library.put second).put first := by
  simp only [put]
  rw [Keyed.insert_comm apart]

theorem injectAll_inject (asked : List (String × String)) :
    library.applyAll (asked.map fun entry => .inject entry.1 entry.2) = library.injectAll asked := by
  unfold applyAll injectAll
  rw [List.foldl_map]
  rfl

/-- Changes to other grammars can be made before or after a version is added. -/
theorem apply_put_comm {version : GrammarDef}
    (others : ∀ other ∈ change.version?, other.scopeName ≠ version.scopeName) :
    (library.put version).apply change = (library.apply change).put version := by
  unfold apply
  cases is : change.version? with
  | none => exact library.injectAll_put version change.asked
  | some other =>
    dsimp only
    rw [injectAll_put, put_comm _ (others other is).symm]

/-- A version that is replaced later might not have been added. -/
theorem applyAll_put {version : GrammarDef} (adds : Change.Adds later version.scopeName) :
    (library.put version).applyAll later = library.applyAll later := by
  induction later generalizing library with
  | nil =>
    obtain ⟨_, mem, -⟩ := adds
    cases mem
  | cons change later ih =>
    unfold applyAll at ih ⊢
    rw [List.foldl_cons, List.foldl_cons]
    by_cases others : ∀ other ∈ change.version?, other.scopeName ≠ version.scopeName
    · rw [apply_put_comm library others]
      refine ih _ ?_
      obtain ⟨other, mem, same⟩ := adds
      obtain ⟨change', among, is⟩ := List.mem_filterMap.mp mem
      rcases List.mem_cons.mp among with rfl | among
      · exact absurd same (others other is)
      · exact ⟨other, List.mem_filterMap.mpr ⟨change', among, is⟩, same⟩
    · obtain ⟨other, is, same⟩ :
          ∃ other ∈ change.version?, other.scopeName = version.scopeName := by simpa using others
      have replaced : (library.put version).apply change = library.apply change := by
        unfold apply
        rw [Option.mem_def.mp is]
        dsimp only
        rw [injectAll_put, put_put_of_eq _ same.symm]
      rw [replaced]

theorem find?_apply (change : Change) (scope : String) :
    (library.apply change).find? scope =
      (change.version?.filter fun version => version.scopeName = scope).or
        (library.find? scope) := by
  unfold apply
  cases change.version? with
  | none => simp [find?, grammars_injectAll]
  | some version =>
    by_cases is : version.scopeName = scope <;>
      simp [find?, put, grammars_injectAll, Option.filter, is]

theorem find?_applyAll (changes : List Change) (scope : String) :
    (({} : Library).applyAll changes).find? scope = Change.lastVersion? changes scope := by
  induction changes using List.reverseRecOn with
  | nil => rfl
  | append_singleton changes change ih =>
    rw [Change.lastVersion?_append, ← ih, ← find?_apply, applyAll, List.foldl_append]
    rfl

theorem injectorsOf_applyAll (changes : List Change) (target : String) :
    (({} : Library).applyAll changes).injectorsOf target =
      (Change.askers changes target).eraseDups := by
  induction changes using List.reverseRecOn with
  | nil => rfl
  | append_singleton changes change ih =>
    have asks (library : Library) : (library.apply change).injectorsOf target =
        (library.injectAll change.asked).injectorsOf target := by
      unfold apply
      split <;> rfl
    rw [Change.askers_append, ← injectorsOf_injectAll ih, ← asks, applyAll, List.foldl_append]
    rfl

theorem nodup_eraseDups : (list : List String) → list.eraseDups.Nodup
  | [] => List.nodup_nil
  | first :: others => by
    rw [List.eraseDups_cons]
    have apart : first ∉ (others.filter fun other => !other == first).eraseDups := by
      simp [List.mem_eraseDups]
    exact List.nodup_cons.mpr ⟨apart, nodup_eraseDups _⟩
termination_by list => list.length
decreasing_by exact Nat.lt_succ_of_le (List.length_filter_le _ _)

/-- No grammar is injected into another one twice. -/
theorem nodup_injectorsOf_applyAll (changes : List Change) (target : String) :
    ((({} : Library).applyAll changes).injectorsOf target).Nodup := by
  rw [injectorsOf_applyAll]
  exact nodup_eraseDups _

theorem applyAll_append (first second : List Change) :
    library.applyAll (first ++ second) = (library.applyAll first).applyAll second :=
  List.foldl_append

theorem applyAll_remnant (later : List Change) (change : Change) :
    (library.applyAll (Change.remnant later change)).applyAll later =
      library.applyAll (change :: later) := by
  unfold Change.remnant
  split
  · next replaced =>
    obtain ⟨version, is, adds⟩ := Option.any_eq_true _ _ |>.mp replaced
    rw [injectAll_inject, ← applyAll_put _ (of_decide_eq_true adds)]
    have whole : library.apply change = (library.injectAll change.asked).put version := by
      unfold apply
      rw [is]
    rw [← whole]
    rfl
  · rfl

/-- Versions that are replaced leave only what they have asked for. -/
theorem applyAll_settled (changes : List Change) :
    library.applyAll (Change.settled changes) = library.applyAll changes := by
  induction changes generalizing library with
  | nil => rfl
  | cons change later ih => rw [Change.settled, applyAll_append, ih, applyAll_remnant]

end Library

end ScopeTokenizer.Grammar
