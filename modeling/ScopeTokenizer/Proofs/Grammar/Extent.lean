import Mathlib.Data.Finset.Card
import ScopeTokenizer.Proofs.Grammar.Underway

/-!
# How many places there are

Each rule that is written in a grammar has one place, so there are no more places in some grammars
than there are rules written in them. Each rule that is compiled takes a place that had no number
before. Therefore no more rules can be compiled inside one another than there are places.
-/

namespace ScopeTokenizer.Grammar

open Compilation Text

/-! ## Places in grammars -/

mutual

/-- The places of the rules that are written in a rule, whose own place is given. Named rules have
no places there. -/
def RuleDef.places (here : List Step) : RuleDef → List (List Step)
  | ⟨_, _, _, _, captures, _, beginCaptures, _, endCaptures, _, whileCaptures, patterns, _, _⟩ =>
    here :: (entriesPlaces (fun key => .capture .any key :: here) captures ++
      entriesPlaces (fun key => .capture .begin key :: here) beginCaptures ++
      entriesPlaces (fun key => .capture .end key :: here) endCaptures ++
      entriesPlaces (fun key => .capture .while key :: here) whileCaptures ++
      listPlaces here 0 patterns)

/-- The places of the rules in a list, the first of which has the given index. -/
def listPlaces (here : List Step) (index : Nat) : List RuleDef → List (List Step)
  | [] => []
  | rule :: rules => rule.places (.pattern index :: here) ++ listPlaces here (index + 1) rules

/-- The places of the rules in the entries of a list, each of which has its own. -/
def entriesPlaces (place : String → List Step) : List (String × RuleDef) → List (List Step)
  | [] => []
  | (key, rule) :: entries => rule.places (place key) ++ entriesPlaces place entries

end

/-- The places of the rules that are written in a grammar. -/
def GrammarDef.places (grammar : GrammarDef) : List (List Step) :=
  (LinkedGrammar.selfNode grammar).rule.places [.self] ++
    entriesPlaces (fun name => [.entry name]) grammar.repository ++
    entriesPlaces (fun selector => [.injection selector]) grammar.injections

mutual

theorem RuleDef.length_places_le (here : List Step) (rule : RuleDef) :
    (rule.places here).length ≤ rule.size := by
  cases rule with
  | mk _ _ _ _ captures _ beginCaptures _ endCaptures _ whileCaptures patterns =>
    have first := length_entriesPlaces_le (fun key => .capture .any key :: here) captures
    have second := length_entriesPlaces_le (fun key => .capture .begin key :: here) beginCaptures
    have third := length_entriesPlaces_le (fun key => .capture .end key :: here) endCaptures
    have fourth := length_entriesPlaces_le (fun key => .capture .while key :: here) whileCaptures
    have inner := length_listPlaces_le here 0 patterns
    simp only [RuleDef.places, RuleDef.size, List.length_cons, List.length_append]
    omega

theorem length_listPlaces_le (here : List Step) (index : Nat) (rules : List RuleDef) :
    (listPlaces here index rules).length ≤ rulesSize rules := by
  cases rules with
  | nil => exact Nat.le_refl _
  | cons rule rules =>
    rw [listPlaces, rulesSize, List.length_append]
    exact Nat.add_le_add (rule.length_places_le _) (length_listPlaces_le here (index + 1) rules)

theorem length_entriesPlaces_le (place : String → List Step)
    (entries : List (String × RuleDef)) :
    (entriesPlaces place entries).length ≤ entriesSize entries := by
  cases entries with
  | nil => exact Nat.le_refl _
  | cons entry entries =>
    rw [entriesPlaces, entriesSize, List.length_append]
    exact Nat.add_le_add (entry.2.length_places_le _) (length_entriesPlaces_le place entries)

end

theorem GrammarDef.length_places_le (grammar : GrammarDef) :
    grammar.places.length ≤ grammar.size := by
  have self : (LinkedGrammar.selfNode grammar).rule.size = 1 + rulesSize grammar.patterns := rfl
  have own := (LinkedGrammar.selfNode grammar).rule.length_places_le [.self]
  have named := length_entriesPlaces_le (fun name => [.entry name]) grammar.repository
  have injected := length_entriesPlaces_le (fun selector => [.injection selector])
    grammar.injections
  rw [places, size, List.length_append, List.length_append]
  omega

/-! ## Having a place -/

theorem RuleDef.mem_places (here : List Step) (rule : RuleDef) : here ∈ rule.places here := by
  cases rule
  rw [places]
  exact List.mem_cons_self

theorem RuleDef.places_subset_entriesPlaces {key : String} {rule : RuleDef}
    {entries : List (String × RuleDef)} (mem : (key, rule) ∈ entries)
    (place : String → List Step) : rule.places (place key) ⊆ entriesPlaces place entries := by
  induction entries with
  | nil => cases mem
  | cons entry entries ih =>
    rw [entriesPlaces]
    rcases List.mem_cons.mp mem with rfl | mem
    · exact List.subset_append_left _ _
    · exact List.subset_append_of_subset_right _ (ih mem)

theorem RuleDef.places_subset_listPlaces {rules : List RuleDef} {i : Nat} {rule : RuleDef}
    (is : rules[i]? = some rule) (here : List Step) (index : Nat) :
    rule.places (.pattern (index + i) :: here) ⊆ listPlaces here index rules := by
  induction rules generalizing i index with
  | nil => cases is
  | cons first rules ih =>
    rw [listPlaces]
    cases i with
    | zero =>
      cases is
      exact List.subset_append_left _ _
    | succ i =>
      rw [← Nat.add_assoc, Nat.add_right_comm]
      exact List.subset_append_of_subset_right _ (ih is (index + 1))

theorem RuleDef.places_subset_of_capture {rule inner : RuleDef} {field : CaptureField}
    {key : String} (mem : (key, inner) ∈ rule.capturesIn field) (here : List Step) :
    inner.places (.capture field key :: here) ⊆ rule.places here := by
  intro place placed
  have among := places_subset_entriesPlaces mem (fun key => .capture field key :: here) placed
  cases rule
  cases field <;> simp only [capturesIn] at among <;> simp [places, among]

theorem RuleDef.places_subset_of_pattern {rule inner : RuleDef} {index : Nat}
    (is : rule.patterns[index]? = some inner) (here : List Step) :
    inner.places (.pattern index :: here) ⊆ rule.places here := by
  intro place placed
  have among := places_subset_listPlaces is here 0
  rw [Nat.zero_add] at among
  cases rule
  simp [places, among placed]

theorem GrammarDef.places_subset_of_ruleAt? {grammar : GrammarDef} {path : List Step}
    {rule : RuleDef} (is : grammar.ruleAt? path = some rule) :
    rule.places path ⊆ grammar.places := by
  have entry {key : String} {rule : RuleDef} {entries : List (String × RuleDef)}
      (found : Keyed.find? entries key = some rule) (place : String → List Step) :
      rule.places (place key) ⊆ entriesPlaces place entries :=
    RuleDef.places_subset_entriesPlaces (Keyed.mem_of_find? found) place
  fun_induction ruleAt? grammar path generalizing rule with
  | case1 =>
    cases is
    exact List.subset_append_of_subset_left _ (List.subset_append_left _ _)
  | case2 name =>
    exact List.subset_append_of_subset_left _
      (List.subset_append_of_subset_right _ (entry is fun name => [.entry name]))
  | case3 selector =>
    exact List.subset_append_of_subset_right _ (entry is fun selector => [.injection selector])
  | case4 index outer ih =>
    obtain ⟨around, found, is⟩ := Option.bind_eq_some_iff.mp is
    exact List.Subset.trans (RuleDef.places_subset_of_pattern is outer) (ih found)
  | case5 field key outer ih =>
    obtain ⟨around, found, is⟩ := Option.bind_eq_some_iff.mp is
    exact List.Subset.trans (RuleDef.places_subset_of_capture (Keyed.mem_of_find? is) outer)
      (ih found)
  | case6 => cases is

/-! ## Places without numbers -/

namespace Sources

variable {sources : Sources}

/-- All places in the grammars. -/
def places (sources : Sources) : List Site :=
  sources.host.places.map (Site.mk sources.host.scopeName) ++
    sources.library.grammars.flatMap fun entry => entry.2.places.map (Site.mk entry.1)

theorem length_places_le (sources : Sources) :
    sources.places.length ≤ sources.host.size + sources.library.size := by
  have total (grammars : List (String × GrammarDef)) (sum : Nat) :
      sum + (grammars.flatMap fun entry => entry.2.places.map (Site.mk entry.1)).length ≤
        grammars.foldl (fun total entry => total + entry.2.size) sum := by
    induction grammars generalizing sum with
    | nil => exact Nat.le_refl _
    | cons entry grammars ih =>
      refine Nat.le_trans ?_ (ih (sum + entry.2.size))
      have le := entry.2.length_places_le
      rw [List.flatMap_cons, List.length_append, List.length_map]
      omega
  rw [places, List.length_append, List.length_map]
  refine Nat.add_le_add sources.host.length_places_le ?_
  have le := total sources.library.grammars 0
  rwa [Nat.zero_add] at le

theorem mem_places_of_ruleAt? {site : Site} {rule : RuleDef}
    (is : sources.ruleAt? site = some rule) : site ∈ sources.places := by
  obtain ⟨grammar, found, is⟩ := Option.bind_eq_some_iff.mp is
  have placed := GrammarDef.places_subset_of_ruleAt? is (rule.mem_places site.path)
  obtain ⟨scope, path⟩ := site
  unfold grammar? at found
  split at found
  · next own =>
    cases found
    obtain rfl : scope = sources.host.scopeName := own
    exact List.mem_append_left _ (List.mem_map_of_mem placed)
  · have mem : (scope, grammar) ∈ sources.library.grammars := Keyed.mem_of_find? found
    exact List.mem_append_right _ (List.mem_flatMap.mpr ⟨_, mem, List.mem_map_of_mem placed⟩)

/-- How many places have no number. -/
def unnumbered (sources : Sources) (compilation : Compilation) : Nat :=
  (sources.places.toFinset.filter fun site => compilation.number? site = none).card

theorem unnumbered_le (sources : Sources) (compilation : Compilation) :
    sources.unnumbered compilation ≤ sources.host.size + sources.library.size :=
  ((Finset.card_filter_le _ _).trans (List.toFinset_card_le _)).trans sources.length_places_le

/-- Places that keep their numbers are not counted again. -/
theorem unnumbered_mono {before after : Compilation}
    (kept : ∀ site, after.number? site = none → before.number? site = none) :
    sources.unnumbered after ≤ sources.unnumbered before :=
  Finset.card_le_card (Finset.monotone_filter_right _ fun site _ => kept site)

/-- A written rule that gets a number takes one of the places that had none. -/
theorem unnumbered_openAt_lt {compilation : Compilation} {site : Site} {rule : RuleDef}
    (is : sources.ruleAt? site = some rule) (fresh : compilation.number? site = none) :
    sources.unnumbered (compilation.openAt site) < sources.unnumbered compilation := by
  have among : site ∈ sources.places.toFinset := List.mem_toFinset.mpr (mem_places_of_ruleAt? is)
  refine Finset.card_lt_card ⟨fun other mem => ?_, fun subset => ?_⟩
  · obtain ⟨among, missing⟩ := Finset.mem_filter.mp mem
    rw [number?_openAt] at missing
    split at missing
    · cases missing
    · exact Finset.mem_filter.mpr ⟨among, missing⟩
  · have missing := (Finset.mem_filter.mp (subset (Finset.mem_filter.mpr ⟨among, fresh⟩))).2
    rw [number?_openAt, if_pos rfl] at missing
    cases missing

end Sources

end ScopeTokenizer.Grammar
