import Mathlib.Data.List.Basic
import ScopeTokenizer.Proofs.Grammar.Parts

/-!
# Reordered patterns

The patterns of one rule of a grammar may be written in another order. That changes places: a rule
that is below the rule with the patterns has another place than before. Apart from that, all rules
stay as they are on the outside.
-/

namespace ScopeTokenizer.Grammar

open Text

/-! ## Places before -/

/-- The step that led to where a step leads after the patterns were reordered. The order says of
each place in the list where its pattern stood before. -/
def Step.origin (order : List Nat) : Step → Step
  | .pattern index => .pattern (order[index]?.getD index)
  | step => step

/-- The steps that led to where some steps lead after the patterns of a rule were reordered. -/
def originPath (holder : List Step) (order : List Nat) : List Step → List Step
  | [] => []
  | step :: outer =>
    (if outer = holder then step.origin order else step) :: originPath holder order outer

/-- The place where a rule stood before the patterns of the rule at a place were reordered. -/
def Site.origin (holder : Site) (order : List Nat) (site : Site) : Site :=
  if site.grammar = holder.grammar then
    { site with path := originPath holder.path order site.path }
  else site

section Places

variable {holder path : List Step} {order : List Nat}

theorem originPath_of_length_le (le : path.length ≤ holder.length) :
    originPath holder order path = path := by
  induction path with
  | nil => rfl
  | cons step outer ih =>
    have apart : outer ≠ holder := fun same => absurd le (same ▸ Nat.not_succ_le_self _)
    rw [originPath, if_neg apart, ih (Nat.le_of_succ_le le)]

theorem originPath_of_not_suffix (apart : ¬ holder <:+ path) :
    originPath holder order path = path := by
  induction path with
  | nil => rfl
  | cons step outer ih =>
    have above : ¬ holder <:+ outer := fun suffix => apart (suffix.trans (List.suffix_cons _ _))
    have differs : outer ≠ holder := fun same => above (same ▸ List.suffix_rfl)
    rw [originPath, if_neg differs, ih above]

theorem originPath_append (holder : List Step) (order : List Nat) (inner : List Step)
    (step : Step) : originPath holder order (inner ++ step :: holder) =
      inner ++ step.origin order :: holder := by
  induction inner with
  | nil =>
    rw [List.nil_append, originPath, if_pos rfl, originPath_of_length_le (Nat.le_refl _)]
    rfl
  | cons first inner ih =>
    have apart : inner ++ step :: holder ≠ holder := by
      intro same
      have length := congrArg List.length same
      simp at length
      omega
    rw [List.cons_append, originPath, if_neg apart, ih, List.cons_append]

theorem Site.grammar_origin (holder : Site) (order : List Nat) (site : Site) :
    (holder.origin order site).grammar = site.grammar := by
  unfold Site.origin
  split <;> rfl

theorem Site.origin_child {holder site : Site} (apart : site ≠ holder) (order : List Nat)
    (step : Step) : holder.origin order (site.child step) =
      (holder.origin order site).child step := by
  unfold Site.origin Site.child
  split
  · next same =>
    have apart : site.path ≠ holder.path := by
      intro path
      apply apart
      cases site
      cases holder
      simp_all
    rw [originPath, if_neg apart]
  · rfl

/-- The rules that a grammar lists itself keep their places. -/
theorem Site.origin_of_top (holder : Site) (order : List Nat) (scope : String) {step : Step}
    (top : step.origin order = step) : holder.origin order ⟨scope, [step]⟩ = ⟨scope, [step]⟩ := by
  simp [Site.origin, originPath, top]

end Places

/-! ## Reordering -/

namespace RuleDef

variable {rule : RuleDef} {order : List Nat}

/-- A rule with its patterns in another order. -/
def reorder (rule : RuleDef) (order : List Nat) : RuleDef :=
  { rule with patterns := order.filterMap (rule.patterns[·]?) }

section Permutation

variable (reorders : order.Perm (List.range rule.patterns.length))

include reorders

theorem patterns_reorder :
    (rule.reorder order).patterns = order.map fun index => rule.patterns.getD index {} := by
  refine List.filterMap_eq_map_iff_forall_eq_some.mpr fun index mem => ?_
  have inside : index < rule.patterns.length := List.mem_range.mp (reorders.mem_iff.mp mem)
  simp [inside]

theorem outline_reorder : (rule.reorder order).outline = rule.outline := by
  have length := reorders.length_eq
  have blank : (rule.reorder order).patterns.map (fun _ => ({} : RuleDef)) =
      rule.patterns.map fun _ => {} := by
    rw [List.length_range] at length
    rw [patterns_reorder reorders, List.map_map, Function.comp_def, List.map_const', length,
      List.map_const']
  simp only [outline, blank]
  rfl

theorem part?_reorder (step : Step) :
    (rule.reorder order).part? step = rule.part? (step.origin order) := by
  cases step with
  | pattern index =>
    simp only [part?, Step.origin, patterns_reorder reorders, List.getElem?_map]
    cases listed : order[index]? with
    | none =>
      have beyond : rule.patterns.length ≤ index := by
        have length := reorders.length_eq
        rw [List.length_range] at length
        exact length ▸ List.getElem?_eq_none_iff.mp listed
      exact (List.getElem?_eq_none beyond).symm
    | some former =>
      have inside : former < rule.patterns.length :=
        List.mem_range.mp (reorders.mem_iff.mp (List.mem_of_getElem? listed))
      simp [inside]
  | capture field key => cases field <;> rfl
  | _ => rfl

end Permutation

theorem Sorted.reorder (sorted : rule.Sorted) (order : List Nat) : (rule.reorder order).Sorted := by
  refine kept_patterns (fun pattern mem => ?_) rule sorted
  obtain ⟨index, -, is⟩ := List.mem_filterMap.mp mem
  exact sorted.patterns pattern (List.mem_of_getElem? is)

end RuleDef

namespace GrammarDef

variable {grammar : GrammarDef} {holder : Site} {order : List Nat} {rule : RuleDef}

/-- A grammar with the patterns of the rule at a place in another order. Other grammars than that of
the place are left as they are. -/
def reorder (grammar : GrammarDef) (holder : Site) (order : List Nat) : GrammarDef :=
  if grammar.scopeName = holder.grammar then
    match grammar.descend? holder.path with
    | some rule => grammar.replace holder.path (rule.reorder order)
    | none => grammar
  else grammar

@[simp] theorem scopeName_withPart (grammar : GrammarDef) (step : Step) (part : RuleDef) :
    (grammar.withPart step part).scopeName = grammar.scopeName := by
  cases step <;> rfl

@[simp] theorem scopeName_replace (grammar : GrammarDef) (path : List Step) (part : RuleDef) :
    (grammar.replace path part).scopeName = grammar.scopeName := by
  fun_induction replace grammar path part with
  | case1 => rfl
  | case2 => exact scopeName_withPart _ _ _
  | case3 _ _ _ _ _ _ ih => exact ih
  | case4 => rfl

@[simp] theorem scopeName_reorder (grammar : GrammarDef) (holder : Site) (order : List Nat) :
    (grammar.reorder holder order).scopeName = grammar.scopeName := by
  unfold reorder
  split
  · split
    · exact scopeName_replace _ _ _
    · rfl
  · rfl

/-- A rule below the reordered patterns is the one that stood at another place before. All others
stay the same on the outside. -/
theorem outline_descend?_reorder (here : grammar.scopeName = holder.grammar)
    (found : grammar.descend? holder.path = some rule)
    (reorders : order.Perm (List.range rule.patterns.length)) (path : List Step) :
    ((grammar.reorder holder order).descend? path).map RuleDef.outline =
      (grammar.descend? (originPath holder.path order path)).map RuleDef.outline := by
  have alike := RuleDef.outline_reorder reorders
  have inside := ne_nil_of_descend? found
  have is : grammar.reorder holder order = grammar.replace holder.path (rule.reorder order) := by
    rw [reorder, if_pos here, found]
  have self := descend?_replace_self found alike
  rw [is]
  by_cases below : holder.path <:+ path
  · obtain ⟨inner, rfl⟩ := below
    rw [descend?_append inside, self, Option.bind_some]
    rcases List.eq_nil_or_concat inner with rfl | ⟨inner, step, rfl⟩
    · rw [List.nil_append, originPath_of_length_le (Nat.le_refl _), found]
      exact congrArg some alike
    · have former (step : Step) : grammar.descend? (inner ++ step :: holder.path) =
          (rule.part? step).bind (·.descend? inner) := by
        rw [List.append_cons, descend?_append inside, found, Option.bind_some,
          RuleDef.descend?_append]
        rfl
      have part := RuleDef.part?_reorder reorders step
      rw [List.concat_eq_append, List.append_assoc, List.singleton_append, originPath_append,
        former, ← part, RuleDef.descend?_append]
      rfl
  · rw [outline_descend?_replace found alike below, originPath_of_not_suffix below]

end GrammarDef

/-! ## Sorted grammars -/

theorem RuleDef.SortedEntries.replace {entries : Keyed RuleDef} (sorted : SortedEntries entries)
    (key : String) {part : RuleDef} (given : part.Sorted) :
    SortedEntries (Keyed.replace key part entries) := by
  constructor
  · rw [Keyed.Increasing, Keyed.keys_replace]
    exact sorted.1
  · intro entry mem
    rcases Keyed.eq_or_mem_of_mem_replace mem with is | mem
    · exact is ▸ given
    · exact sorted.2 entry mem

theorem RuleDef.Sorted.withPart {rule part : RuleDef} (sorted : rule.Sorted) (step : Step)
    (given : part.Sorted) : (rule.withPart step part).Sorted := by
  cases step with
  | pattern index =>
    refine kept_patterns (fun inner mem => ?_) rule sorted
    rcases List.mem_or_eq_of_mem_set mem with mem | is
    · exact sorted.patterns inner mem
    · exact is ▸ given
  | capture field key =>
    exact kept_recapture field ((sorted.capturesIn field).replace key given) rule sorted
  | entry name =>
    refine kept_repository (fun entries is => ?_) rule sorted
    obtain ⟨own, among, rfl⟩ := Option.map_eq_some_iff.mp is
    exact SortedEntries.replace (sorted.repository own among) name given
  | self => exact sorted
  | injection => exact sorted

namespace GrammarDef.Sorted

variable {grammar : GrammarDef} {part : RuleDef}

theorem withPart (sorted : grammar.Sorted) (step : Step) (given : part.Sorted) :
    (grammar.withPart step part).Sorted := by
  cases step with
  | self => exact ⟨given.patterns, sorted.repository, sorted.injections⟩
  | entry name =>
    exact ⟨sorted.patterns, sorted.repository.replace name given, sorted.injections⟩
  | injection selector =>
    exact ⟨sorted.patterns, sorted.repository, sorted.injections.replace selector given⟩
  | pattern => exact sorted
  | capture => exact sorted

theorem replace {path : List Step} (sorted : grammar.Sorted) (given : part.Sorted) :
    (grammar.replace path part).Sorted := by
  fun_induction GrammarDef.replace grammar path part with
  | case1 => exact sorted
  | case2 step => exact sorted.withPart step given
  | case3 step outer part inside around is ih =>
    exact ih ((sorted.descend? is).withPart step given)
  | case4 => exact sorted

theorem reorder (sorted : grammar.Sorted) (holder : Site) (order : List Nat) :
    (grammar.reorder holder order).Sorted := by
  unfold GrammarDef.reorder
  split
  · split
    · next rule found => exact sorted.replace ((sorted.descend? found).reorder order)
    · exact sorted
  · exact sorted

end GrammarDef.Sorted

/-! ## Sources -/

namespace Sources

variable {sources : Sources} {holder : Site} {order : List Nat} {rule : RuleDef}

/-- Grammars of which one has the patterns of the rule at a place in another order. -/
def reorder (sources : Sources) (holder : Site) (order : List Nat) : Sources where
  host := sources.host.reorder holder order
  library := { sources.library with
    grammars := sources.library.grammars.mapValues (·.reorder holder order) }

theorem grammar?_reorder (sources : Sources) (holder : Site) (order : List Nat) (scope : String) :
    (sources.reorder holder order).grammar? scope =
      (sources.grammar? scope).map (·.reorder holder order) := by
  simp only [Sources.grammar?, reorder, GrammarDef.scopeName_reorder, Library.find?,
    Keyed.find?_mapValues]
  split <;> rfl

theorem Sorted.reorder (sorted : sources.Sorted) (holder : Site) (order : List Nat) :
    (sources.reorder holder order).Sorted where
  host := sorted.host.reorder holder order
  library := by
    constructor
    · rintro _ mem
      obtain ⟨entry, among, rfl⟩ := List.mem_map.mp mem
      exact (GrammarDef.scopeName_reorder _ _ _).trans (sorted.library.named entry among)
    · rintro _ mem
      obtain ⟨entry, among, rfl⟩ := List.mem_map.mp mem
      exact (sorted.library.sorted entry among).reorder holder order

/-- Every rule is on the outside the one that stood at the place before. -/
theorem Sorted.outline_descend?_reorder (sorted : sources.Sorted)
    (found : sources.descend? holder = some rule)
    (reorders : order.Perm (List.range rule.patterns.length)) (site : Site) :
    ((sources.reorder holder order).descend? site).map RuleDef.outline =
      (sources.descend? (holder.origin order site)).map RuleDef.outline := by
  obtain ⟨grammar, is, found⟩ := Option.bind_eq_some_iff.mp found
  obtain ⟨here, -⟩ := sorted.grammar? is
  simp only [Sources.descend?, grammar?_reorder, Site.grammar_origin]
  cases known : sources.grammar? site.grammar with
  | none => rfl
  | some other =>
    obtain ⟨named, -⟩ := sorted.grammar? known
    simp only [Option.map_some, Option.bind_some, Site.origin]
    by_cases same : site.grammar = holder.grammar
    · rw [same, is] at known
      cases known
      rw [if_pos same]
      exact GrammarDef.outline_descend?_reorder here found reorders site.path
    · have apart : other.scopeName ≠ holder.grammar := named ▸ same
      rw [if_neg same, GrammarDef.reorder, if_neg apart]

end Sources

end ScopeTokenizer.Grammar
