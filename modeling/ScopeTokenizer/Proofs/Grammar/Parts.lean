import ScopeTokenizer.Proofs.Grammar.Definitions
import ScopeTokenizer.Proofs.Grammar.Scoping

/-!
# Rules at places

The steps of a place lead from a grammar to a rule, which may also be a rule that another one has
for itself. A rule can be put in place of the one that is found there. As long as the two are alike
on the outside, so is every other rule that is not below the place.
-/

namespace ScopeTokenizer.Text.Keyed

variable {α β : Type}

/-- Puts a value in place of the one under a key, if there is one. -/
def replace (key : String) (value : α) (map : Keyed α) : Keyed α :=
  List.map (fun entry => (entry.1, if entry.1 = key then value else entry.2)) map

@[simp] theorem keys_replace (key : String) (value : α) (map : Keyed α) :
    keys (replace key value map) = keys map := by
  simp [keys, replace]

theorem find?_replace (key other : String) (value : α) (map : Keyed α) :
    find? (replace key value map) other =
      if other = key then (find? map key).map fun _ => value else find? map other := by
  induction map with
  | nil => simp [replace, find?]
  | cons entry map ih =>
    simp only [replace, List.map_cons, find?] at ih ⊢
    rw [ih]
    by_cases same : other = key
    · subst same
      split <;> simp_all
    · by_cases here : entry.1 = other
      · simp [here, same]
      · simp [here, same]

@[simp] theorem mapValues_replace (blank : β) (key : String) (value : α) (map : Keyed α) :
    mapValues (fun _ => blank) (replace key value map) = mapValues (fun _ => blank) map := by
  simp [mapValues, replace]

theorem eq_or_mem_of_mem_replace {key : String} {value : α} {map : Keyed α}
    {entry : String × α} (mem : entry ∈ replace key value map) :
    entry.2 = value ∨ entry ∈ map := by
  obtain ⟨⟨other, kept⟩, listed, rfl⟩ := List.mem_map.mp mem
  dsimp only
  split
  · exact .inl rfl
  · exact .inr listed

end ScopeTokenizer.Text.Keyed

namespace ScopeTokenizer.Grammar

open Text

/-! ## Parts of rules -/

namespace RuleDef

variable {rule part other : RuleDef} {step : Step}

/-- The rule that is one step below a rule. -/
def part? (rule : RuleDef) : Step → Option RuleDef
  | .pattern index => rule.patterns[index]?
  | .capture field key => Keyed.find? (rule.capturesIn field) key
  | .entry name => rule.repository.bind (Keyed.find? · name)
  | .self => none
  | .injection _ => none

/-- The rule to which some steps lead, of which the last one comes first. -/
def descend? (rule : RuleDef) : List Step → Option RuleDef
  | [] => some rule
  | step :: outer => (rule.descend? outer).bind (·.part? step)

/-- Puts a rule in place of the one that is one step below a rule. -/
def withPart (rule : RuleDef) (step : Step) (part : RuleDef) : RuleDef :=
  match step with
  | .pattern index => { rule with patterns := rule.patterns.set index part }
  | .capture field key => recapture field (Keyed.replace key part (rule.capturesIn field)) rule
  | .entry name => { rule with repository := rule.repository.map (Keyed.replace name part) }
  | .self => rule
  | .injection _ => rule

/-- A rule without what is written in the rules below it, of which only the names and the number
are kept. -/
def outline (rule : RuleDef) : RuleDef :=
  let blank := Keyed.mapValues fun _ => ({} : RuleDef)
  { rule with
    captures := blank rule.captures
    beginCaptures := blank rule.beginCaptures
    endCaptures := blank rule.endCaptures
    whileCaptures := blank rule.whileCaptures
    patterns := rule.patterns.map fun _ => {}
    repository := rule.repository.map blank }

theorem descend?_append (rule : RuleDef) (inner outer : List Step) :
    rule.descend? (inner ++ outer) = (rule.descend? outer).bind (·.descend? inner) := by
  induction inner with
  | nil => simp [descend?]
  | cons step inner ih =>
    simp only [List.cons_append, descend?, ih, Option.bind_assoc]

theorem outline_recapture {field : CaptureField} {entries : Keyed RuleDef}
    (same : Keyed.mapValues (fun _ => ({} : RuleDef)) entries =
      Keyed.mapValues (fun _ => {}) (rule.capturesIn field)) :
    (recapture field entries rule).outline = rule.outline := by
  cases field <;> simp only [recapture, outline, same, capturesIn]

theorem outline_withPart (rule : RuleDef) (step : Step) (part : RuleDef) :
    (rule.withPart step part).outline = rule.outline := by
  cases step with
  | pattern index =>
    have same : (rule.patterns.set index part).map (fun _ => ({} : RuleDef)) =
        rule.patterns.map fun _ => {} := by simp [List.map_const']
    simp only [withPart, outline, same]
  | capture field key => exact outline_recapture (Keyed.mapValues_replace _ _ _ _)
  | entry name => simp [withPart, outline, Function.comp_def]
  | self => rfl
  | injection => rfl

theorem part?_withPart_self (rule : RuleDef) (step : Step) (part : RuleDef) :
    (rule.withPart step part).part? step = (rule.part? step).map fun _ => part := by
  cases step with
  | pattern index =>
    simp only [withPart, part?, List.getElem?_set_self']
    rfl
  | capture field key => simp [withPart, part?, capturesIn_recapture, Keyed.find?_replace]
  | entry name =>
    cases own : rule.repository <;> simp [withPart, part?, own, Keyed.find?_replace]
  | self => rfl
  | injection => rfl

theorem part?_recapture_of_ne {field : CaptureField} (entries : Keyed RuleDef) {step : Step}
    (apart : ∀ key, step ≠ .capture field key) :
    (recapture field entries rule).part? step = rule.part? step := by
  cases step with
  | capture other key =>
    have apart : other ≠ field := by
      rintro rfl
      exact apart key rfl
    simp [part?, capturesIn_recapture, apart]
  | pattern => cases field <;> rfl
  | entry => cases field <;> rfl
  | self => rfl
  | injection => rfl

theorem part?_withPart_of_ne (rule : RuleDef) {step other : Step} (apart : other ≠ step)
    (part : RuleDef) : (rule.withPart step part).part? other = rule.part? other := by
  cases step with
  | pattern index =>
    cases other with
    | pattern other =>
      have apart : index ≠ other := fun same => apart (same ▸ rfl)
      exact List.getElem?_set_ne apart
    | capture field key => cases field <;> rfl
    | _ => rfl
  | capture field key =>
    by_cases among : ∃ other', other = .capture field other'
    · obtain ⟨other, rfl⟩ := among
      have apart : other ≠ key := fun same => apart (same ▸ rfl)
      simp [withPart, part?, capturesIn_recapture, Keyed.find?_replace, apart]
    · exact part?_recapture_of_ne _ fun key is => among ⟨key, is⟩
  | entry name =>
    cases other with
    | entry other =>
      have apart : other ≠ name := fun same => apart (same ▸ rfl)
      cases own : rule.repository <;>
        simp [withPart, part?, own, Keyed.find?_replace, apart]
    | capture field key => cases field <;> rfl
    | _ => rfl
  | self => rfl
  | injection => rfl

end RuleDef

/-! ## Parts of grammars -/

namespace GrammarDef

variable {grammar : GrammarDef} {rule part other : RuleDef} {step : Step}

/-- The rule that is one step below a grammar. -/
def part? (grammar : GrammarDef) : Step → Option RuleDef
  | .self => some (LinkedGrammar.selfNode grammar).rule
  | .entry name => Keyed.find? grammar.repository name
  | .injection selector => Keyed.find? grammar.injections selector
  | .pattern _ => none
  | .capture _ _ => none

/-- The rule to which some steps lead, of which the last one comes first. -/
def descend? (grammar : GrammarDef) : List Step → Option RuleDef
  | [] => none
  | [step] => grammar.part? step
  | step :: outer => (grammar.descend? outer).bind (·.part? step)

/-- Puts a rule in place of the one that is one step below a grammar. -/
def withPart (grammar : GrammarDef) (step : Step) (part : RuleDef) : GrammarDef :=
  match step with
  | .self => { grammar with patterns := part.patterns }
  | .entry name => { grammar with repository := Keyed.replace name part grammar.repository }
  | .injection selector =>
    { grammar with injections := Keyed.replace selector part grammar.injections }
  | .pattern _ => grammar
  | .capture _ _ => grammar

/-- Puts a rule in place of the one to which some steps lead. -/
def replace (grammar : GrammarDef) : List Step → RuleDef → GrammarDef
  | [], _ => grammar
  | [step], rule => grammar.withPart step rule
  | step :: outer, rule =>
    match grammar.descend? outer with
    | some around => grammar.replace outer (around.withPart step rule)
    | none => grammar

theorem descend?_cons {outer : List Step} (inside : outer ≠ []) (step : Step) :
    grammar.descend? (step :: outer) = (grammar.descend? outer).bind (·.part? step) := by
  cases outer with
  | nil => exact absurd rfl inside
  | cons => rfl

theorem descend?_append {outer : List Step} (inside : outer ≠ []) (inner : List Step) :
    grammar.descend? (inner ++ outer) =
      (grammar.descend? outer).bind (·.descend? inner) := by
  induction inner with
  | nil => simp [RuleDef.descend?]
  | cons step inner ih =>
    have inside : inner ++ outer ≠ [] := List.append_ne_nil_of_right_ne_nil inner inside
    rw [List.cons_append, descend?_cons inside, ih, Option.bind_assoc]
    rfl

theorem ne_nil_of_descend? {path : List Step} (found : grammar.descend? path = some rule) :
    path ≠ [] := by
  rintro rfl
  cases found

/-- Nothing but patterns is written in the rule that stands for a grammar. -/
theorem eq_of_outline_self
    (same : rule.outline = (LinkedGrammar.selfNode grammar).rule.outline) :
    rule = { name := some grammar.scopeName, patterns := rule.patterns } := by
  cases rule
  simp [RuleDef.outline, LinkedGrammar.selfNode, Keyed.mapValues] at same ⊢
  simp [same]

theorem part?_withPart_self (found : grammar.part? step = some rule)
    (same : part.outline = rule.outline) : (grammar.withPart step part).part? step = some part := by
  cases step with
  | self =>
    cases found
    exact congrArg some (eq_of_outline_self same).symm
  | entry name =>
    have found : Keyed.find? grammar.repository name = some rule := found
    simp [withPart, part?, Keyed.find?_replace, found]
  | injection selector =>
    have found : Keyed.find? grammar.injections selector = some rule := found
    simp [withPart, part?, Keyed.find?_replace, found]
  | pattern => cases found
  | capture => cases found

theorem part?_withPart_of_ne (grammar : GrammarDef) {step other : Step} (apart : other ≠ step)
    (part : RuleDef) : (grammar.withPart step part).part? other = grammar.part? other := by
  cases step with
  | self =>
    cases other with
    | self => exact absurd rfl apart
    | _ => rfl
  | entry name =>
    cases other with
    | entry other =>
      have apart : other ≠ name := fun same => apart (same ▸ rfl)
      simp [withPart, part?, Keyed.find?_replace, apart]
    | _ => rfl
  | injection selector =>
    cases other with
    | injection other =>
      have apart : other ≠ selector := fun same => apart (same ▸ rfl)
      simp [withPart, part?, Keyed.find?_replace, apart]
    | _ => rfl
  | pattern => rfl
  | capture => rfl

/-- What is put in place of a rule is found there. -/
theorem descend?_replace_self {path : List Step} (found : grammar.descend? path = some rule)
    (same : part.outline = rule.outline) :
    (grammar.replace path part).descend? path = some part := by
  fun_induction replace grammar path part generalizing rule with
  | case1 => cases found
  | case2 step part => exact part?_withPart_self found same
  | case3 step outer part inside around is ih =>
    have inside : outer ≠ [] := ne_nil_of_descend? is
    rw [descend?_cons inside, is] at found
    have found : around.part? step = some rule := found
    rw [descend?_cons inside, ih is (around.outline_withPart step part), Option.bind_some,
      RuleDef.part?_withPart_self, found]
    rfl
  | case4 step outer part inside none =>
    rw [descend?_cons inside, none] at found
    cases found

/-- Any rule that is not below the place stays the same on the outside. -/
theorem outline_descend?_replace {path other : List Step}
    (found : grammar.descend? path = some rule) (same : part.outline = rule.outline)
    (apart : ¬ path <:+ other) :
    ((grammar.replace path part).descend? other).map RuleDef.outline =
      (grammar.descend? other).map RuleDef.outline := by
  fun_induction replace grammar path part generalizing rule with
  | case1 => rfl
  | case2 step part =>
    rcases List.eq_nil_or_concat other with rfl | ⟨inner, last, rfl⟩
    · rfl
    · have differs : last ≠ step := by
        rintro rfl
        apply apart
        rw [List.concat_eq_append]
        exact List.suffix_append inner [last]
      have here : (grammar.withPart step part).descend? [last] = grammar.descend? [last] :=
        grammar.part?_withPart_of_ne differs part
      rw [List.concat_eq_append, descend?_append (List.cons_ne_nil last []),
        descend?_append (List.cons_ne_nil last []), here]
  | case3 step outer part inside around is ih =>
    have inside : outer ≠ [] := ne_nil_of_descend? is
    have alike := around.outline_withPart step part
    by_cases above : outer <:+ other
    · obtain ⟨inner, rfl⟩ := above
      rw [descend?_append inside, descend?_append inside, descend?_replace_self is alike, is,
        Option.bind_some, Option.bind_some]
      rcases List.eq_nil_or_concat inner with rfl | ⟨inner, last, rfl⟩
      · exact congrArg some alike
      · have differs : last ≠ step := by
          rintro rfl
          apply apart
          rw [List.concat_eq_append, List.append_assoc]
          exact List.suffix_append inner (last :: outer)
        have here : (around.withPart step part).descend? [last] = around.descend? [last] :=
          around.part?_withPart_of_ne differs part
        rw [List.concat_eq_append, RuleDef.descend?_append, RuleDef.descend?_append, here]
    · exact ih is alike above
  | case4 step outer part inside none => rfl

end GrammarDef

/-! ## Sorted grammars -/

theorem RuleDef.Sorted.part? {rule part : RuleDef} {step : Step} (sorted : rule.Sorted)
    (found : rule.part? step = some part) : part.Sorted := by
  cases step with
  | pattern index => exact sorted.patterns part (List.mem_of_getElem? found)
  | capture field key => exact (sorted.capturesIn field).2 _ (Keyed.mem_of_find? found)
  | entry name =>
    obtain ⟨entries, own, found⟩ := Option.bind_eq_some_iff.mp found
    exact (sorted.repository entries own).2 _ (Keyed.mem_of_find? found)
  | self => cases found
  | injection => cases found

namespace GrammarDef

variable {grammar : GrammarDef} {rule part : RuleDef} {step : Step}

theorem Sorted.self (sorted : grammar.Sorted) : (LinkedGrammar.selfNode grammar).rule.Sorted :=
  .of_entries RuleDef.Sorted.empty.capturesIn sorted.patterns nofun

theorem Sorted.part? (sorted : grammar.Sorted) (found : grammar.part? step = some part) :
    part.Sorted := by
  cases step with
  | self =>
    cases found
    exact sorted.self
  | entry name => exact sorted.repository.2 _ (Keyed.mem_of_find? found)
  | injection selector => exact sorted.injections.2 _ (Keyed.mem_of_find? found)
  | pattern => cases found
  | capture => cases found

theorem Sorted.descend? {path : List Step} (sorted : grammar.Sorted)
    (found : grammar.descend? path = some rule) : rule.Sorted := by
  fun_induction GrammarDef.descend? grammar path generalizing rule with
  | case1 => cases found
  | case2 step => exact sorted.part? found
  | case3 step outer inside ih =>
    obtain ⟨around, is, found⟩ := Option.bind_eq_some_iff.mp found
    exact (ih is).part? found

end GrammarDef

namespace Sources

/-- Grammars as they are read, by their scope names. -/
structure Sorted (sources : Sources) : Prop where
  host : sources.host.Sorted
  library : sources.library.WellFormed

/-- The rule that is written at a place, which may be one that another rule has for itself. -/
def descend? (sources : Sources) (site : Site) : Option RuleDef :=
  (sources.grammar? site.grammar).bind (·.descend? site.path)

variable {sources : Sources} {site : Site} {rule : RuleDef} {node : Node}

theorem Sorted.grammar? (sorted : sources.Sorted) {scope : String} {grammar : GrammarDef}
    (found : sources.grammar? scope = some grammar) :
    grammar.scopeName = scope ∧ grammar.Sorted := by
  unfold Sources.grammar? at found
  split at found
  · next is =>
    cases found
    exact ⟨is.symm, sorted.host⟩
  · have mem := Keyed.mem_of_find? found
    exact ⟨sorted.library.named _ mem, sorted.library.sorted _ mem⟩

theorem Sorted.descend? (sorted : sources.Sorted) (found : sources.descend? site = some rule) :
    rule.Sorted := by
  obtain ⟨grammar, is, found⟩ := Option.bind_eq_some_iff.mp found
  exact (sorted.grammar? is).2.descend? found

theorem descend?_child (found : sources.descend? site = some rule) (step : Step) :
    sources.descend? (site.child step) = rule.part? step := by
  obtain ⟨grammar, is, found⟩ := Option.bind_eq_some_iff.mp found
  have inside := GrammarDef.ne_nil_of_descend? found
  simp only [Sources.descend?, Site.child, is, Option.bind_some]
  rw [GrammarDef.descend?_cons inside, found, Option.bind_some]

/-- The rule that is written at a place is found there. -/
theorem Written.descend? (written : sources.Written node) (sorted : sources.Sorted) :
    sources.descend? node.site = some node.rule := by
  have listed {name : String} {inner : RuleDef} {entries : Keyed RuleDef}
      (sorted : RuleDef.SortedEntries entries) (mem : (name, inner) ∈ entries) :
      Keyed.find? entries name = some inner := Keyed.find?_of_mem sorted.1.nodup mem
  induction written with
  | @self scope grammar found =>
    obtain ⟨rfl, -⟩ := sorted.grammar? found
    exact Option.bind_eq_some_iff.mpr ⟨grammar, found, rfl⟩
  | @entry scope name grammar _ found mem =>
    obtain ⟨rfl, sorted⟩ := sorted.grammar? found
    obtain ⟨rule, among, rfl⟩ := exists_of_mem_namedNodes mem
    exact Option.bind_eq_some_iff.mpr ⟨grammar, found, listed sorted.repository among⟩
  | @injection scope selector grammar _ found mem =>
    obtain ⟨rfl, sorted⟩ := sorted.grammar? found
    obtain ⟨rule, among, rfl⟩ := exists_of_mem_namedNodes mem
    exact Option.bind_eq_some_iff.mpr ⟨grammar, found, listed sorted.injections among⟩
  | pattern _ mem ih =>
    obtain ⟨index, rule, is, rfl⟩ := Node.mem_patterns.mp mem
    exact (descend?_child ih _).trans is
  | @capture _ _ field _ _ mem ih =>
    obtain ⟨rule, among, rfl⟩ := exists_of_mem_namedNodes mem
    exact (descend?_child ih _).trans (listed ((sorted.descend? ih).capturesIn field) among)
  | ownEntry _ own mem ih =>
    obtain ⟨rule, among, rfl⟩ := exists_of_mem_namedNodes mem
    refine (descend?_child ih _).trans (Option.bind_eq_some_iff.mpr ⟨_, own, ?_⟩)
    exact listed ((sorted.descend? ih).repository _ own) among

/-- What steps lead to is written. -/
theorem Sorted.written (sorted : sources.Sorted) (found : sources.descend? site = some rule) :
    sources.Written ⟨site, rule⟩ := by
  obtain ⟨scope, path⟩ := site
  rw [Sources.descend?, Option.bind_eq_some_iff] at found
  obtain ⟨grammar, is, found⟩ := found
  obtain ⟨rfl, -⟩ := sorted.grammar? is
  dsimp only at found
  fun_induction GrammarDef.descend? grammar path generalizing rule with
  | case1 => cases found
  | case2 step =>
    cases step with
    | self =>
      cases found
      exact .self is
    | entry name => exact .entry is (List.mem_map_of_mem (Keyed.mem_of_find? found))
    | injection selector => exact .injection is (List.mem_map_of_mem (Keyed.mem_of_find? found))
    | pattern => cases found
    | capture => cases found
  | case3 step outer inside ih =>
    obtain ⟨around, within, found⟩ := Option.bind_eq_some_iff.mp found
    have written := ih is within
    cases step with
    | pattern index => exact .pattern written (Node.mem_patterns.mpr ⟨index, rule, found, rfl⟩)
    | capture field key =>
      exact .capture written (List.mem_map_of_mem (Keyed.mem_of_find? found))
    | entry name =>
      obtain ⟨entries, own, found⟩ := Option.bind_eq_some_iff.mp found
      exact .ownEntry written own (List.mem_map_of_mem (Keyed.mem_of_find? found))
    | self => cases found
    | injection => cases found

end Sources

end ScopeTokenizer.Grammar
