import ScopeTokenizer.Proofs.Grammar.Hosting
import ScopeTokenizer.Proofs.Grammar.Retracing

/-!
# Compiling in another order

A rule is compiled once, when it is met first, and what it includes is looked up then. If the
patterns of one rule are written in another order, other ways lead to a rule first. Its patterns are
compiled to the same rules all the same, but for includes that mean one rule on one way to it and
another rule on another way.
-/

namespace ScopeTokenizer.Grammar

open Text

/-! ## Lists side by side -/

section Lists

variable {α β : Type} {R : α → β → Prop} {first : List α} {second : List β} {index : Nat} {a : α}

theorem of_getElem?_of_forall₂ (each : List.Forall₂ R first second) {b : β}
    (listed : first[index]? = some a) (listed' : second[index]? = some b) : R a b := by
  obtain ⟨before, rfl⟩ := List.getElem?_eq_some_iff.mp listed
  obtain ⟨now, rfl⟩ := List.getElem?_eq_some_iff.mp listed'
  exact (List.forall₂_iff_get.mp each).2 index before now

theorem exists_of_getElem?_of_forall₂ (each : List.Forall₂ R first second)
    (listed : first[index]? = some a) : ∃ b, second[index]? = some b ∧ R a b := by
  obtain ⟨before, -⟩ := List.getElem?_eq_some_iff.mp listed
  have now : index < second.length := each.length_eq ▸ before
  have there := List.getElem?_eq_getElem now
  exact ⟨_, there, of_getElem?_of_forall₂ each listed there⟩

end Lists

namespace Sources

variable {sources : Sources} {holder site : Site} {order : List Nat} {rule : RuleDef}

section Reordered

variable (sorted : sources.Sorted) (found : sources.descend? holder = some rule)
  (reorders : order.Perm (List.range rule.patterns.length))

include sorted found reorders

/-- What is tried inside a rule that keeps its patterns is what was tried there before. -/
theorem entries_reorder {node other : Node} (written : sources.Written node)
    (written' : (sources.reorder holder order).Written other)
    (here : node.site = holder.origin order other.site) (apart : other.site ≠ holder) :
    List.Forall₂ (fun entry entry' : Node => entry.rule.includeName = entry'.rule.includeName ∧
      entry.site = holder.origin order entry'.site) node.entries other.entries := by
  have alike := outline_eq_of_written sorted found reorders written written' here
  obtain ⟨included, matched, begins, many, length⟩ := RuleDef.fields_of_outline alike
  have patterns : List.Forall₂ (fun entry entry' : Node =>
      entry.rule.includeName = entry'.rule.includeName ∧
        entry.site = holder.origin order entry'.site) node.patterns other.patterns := by
    refine List.forall₂_iff_get.mpr ⟨?_, fun index before now => ?_⟩
    · simpa [Node.patterns, listedNodes] using length
    · have listed := List.getElem?_eq_getElem before
      have listed' := List.getElem?_eq_getElem now
      rw [Node.getElem?_patterns, Option.map_eq_some_iff] at listed listed'
      obtain ⟨rule, -, is⟩ := listed
      obtain ⟨rule', -, is'⟩ := listed'
      have place : node.site.child (.pattern index) =
          holder.origin order (other.site.child (.pattern index)) := by
        rw [Site.origin_child apart, here]
      have writes := Written.pattern written (List.getElem_mem before)
      have writes' := Written.pattern written' (List.getElem_mem now)
      rw [← is] at writes
      rw [← is'] at writes'
      have alike := outline_eq_of_written sorted found reorders writes writes' place
      simp only [List.get_eq_getElem, ← is, ← is']
      exact ⟨(RuleDef.fields_of_outline alike).1, place⟩
  unfold Node.entries
  rw [← included, ← matched, ← begins, ← many]
  split
  · exact .nil
  · split
    · exact patterns
    · exact .cons ⟨rfl, here⟩ .nil
  · exact patterns

end Reordered

/-! ## Includes with one meaning -/

section Settled

variable {starts : Visit → Prop} {node : Node} {text name : String}

/-- Where no rule has a rule of its own by the name of the host, an include of a name that no rule
of the grammar has for itself means the same on all ways. -/
theorem settled_of_uniform (sorted : sources.Sorted) (based : sources.Based)
    (uniform : sources.Uniform node.site.grammar text) :
    sources.Settled sources.Root node text := by
  have home {outer : List Site} {around : Surroundings}
      (way : sources.Way sources.Root (.rule outer around node)) :
      ∃ grammar, sources.linked? node.site.grammar = some grammar ∧
        ∀ name, ¬ sources.Owns node.site.grammar name →
          (node.inside around).repository.find? name = grammar.repository.find? name := by
    obtain ⟨-, grammar, links, visible⟩ := way.atHome based fun _ root => root.begins
    refine ⟨grammar, ?_, fun name free => ?_⟩
    · obtain ⟨here, key, linked⟩ := links
      obtain ⟨definition, is, rfl⟩ := Option.map_eq_some_iff.mp linked
      obtain ⟨rfl, -⟩ := sorted.grammar? is
      exact here ▸ linked
    · refine (visible.inside links way.written_of_root).shared name ?_
      rw [links.scopeName]
      exact free
  intro outer outer' around around' there there' target target' way way' means means'
  obtain ⟨grammar, linked, sees⟩ := home way
  obtain ⟨_, linked', sees'⟩ := home way'
  cases linked.symm.trans linked'
  cases means with
  | named isLocal is =>
    have free := uniform _ isLocal
    cases means' with
    | named isLocal' is' =>
      cases isLocal.symm.trans isLocal'
      rw [sees _ free] at is
      rw [sees' _ free] at is'
      cases is.symm.trans is'
      rfl
    | entry elsewhere => cases IncludeTarget.not_both isLocal elsewhere
  | entry elsewhere met is =>
    cases means' with
    | named isLocal => cases IncludeTarget.not_both isLocal elsewhere
    | entry elsewhere' met' is' =>
      cases elsewhere.symm.trans elsewhere'
      have linked : sources.linked? _ = some _ := met.atHome based fun _ root => root.begins
      have linked' : sources.linked? _ = some _ := met'.atHome based fun _ root => root.begins
      cases linked.symm.trans linked'
      cases is.symm.trans is'
      rfl

/-- An include inside a rule that has a rule of its own by the name means that rule on all ways. -/
theorem settled_of_own (matchless : node.rule.matchPattern = none)
    (bare : node.rule.beginPattern = none)
    (isLocal : (IncludeTarget.ofText text).localName? = some name)
    (own : name ∈ node.rule.ownNames) : sources.Settled starts node text := by
  have meant {around there : Surroundings} {target : Node}
      (means : sources.Means starts (node.inside around) text there target) :
      target.site = node.site.child (.entry name) := by
    cases means with
    | named isLocal' is =>
      cases isLocal.symm.trans isLocal'
      have sees := node.site_find?_extend around.repository name
      rw [Node.inside_of_bare matchless bare] at is
      rw [is, if_pos own] at sees
      exact Option.some.inj sees
    | entry elsewhere => cases IncludeTarget.not_both isLocal elsewhere
  intro outer outer' around around' there there' target target' _ _ means means'
  rw [meant means, meant means']

/-- An include from another grammar means the same on all ways, unless it is of the base that the
grammar was given. -/
theorem settled_of_outer {scope : String}
    (elsewhere : (IncludeTarget.ofText text).outerName? = some (scope, name))
    (other : name ≠ LinkedGrammar.baseKey) : sources.Settled sources.Root node text := by
  have meant {inside there : Surroundings} {target : Node}
      (means : sources.Means sources.Root inside text there target) :
      ∃ grammar, sources.link? scope none = some grammar ∧
        grammar.repository.find? name = some target := by
    cases means with
    | named isLocal => cases IncludeTarget.not_both isLocal elsewhere
    | entry elsewhere' met is =>
      cases elsewhere.symm.trans elsewhere'
      cases met with
      | start root => cases root
      | grammar _ _ _ linked =>
        unfold link? at linked ⊢
        split at linked
        · next host =>
          rw [if_pos host]
          exact ⟨_, linked, is⟩
        · next apart =>
          obtain ⟨definition, found, rfl⟩ := Option.map_eq_some_iff.mp linked
          rw [if_neg apart, found]
          refine ⟨_, rfl, ?_⟩
          simp only [LinkedGrammar.ofDef, Keyed.find?_insert, if_neg other.symm] at is ⊢
          exact is
  intro outer outer' around around' there there' target target' _ _ means means'
  obtain ⟨grammar, linked, is⟩ := meant means
  obtain ⟨_, linked', is'⟩ := meant means'
  cases linked.symm.trans linked'
  cases is.symm.trans is'
  rfl

end Settled

end Sources

namespace Compilation

variable {sources : Sources} {holder site : Site} {order : List Nat} {rule : RuleDef}
  {before after : Compilation} {root root' id id' : RuleId}

/-- Two compilations of a rule that is written at a place. One by one, its patterns are compiled to
the rules of the same places, which are told as they were before. Left out are includes that mean
different rules on different ways to the rule. -/
structure CompiledAlike (sources : Sources) (origin : Site → Site) (before after : Compilation)
    (node : Node) (first second : Rule) : Prop where
  length : first.inner.patterns.length = node.entries.length
  length' : second.inner.patterns.length = node.entries.length
  patterns : ∀ (index : Nat) (entry : Node) (ref ref' : RuleId),
    node.entries[index]? = some entry →
    (∀ text ∈ entry.rule.includeName, sources.Settled sources.Root node text) →
    first.inner.patterns[index]? = some ref → second.inner.patterns[index]? = some ref' →
    ∃ place, before.number? (origin place) = some ref ∧ after.number? place = some ref'

/-- A place with a number has a rule, which is compiled from what was met there. -/
theorem Grounded.exists_met {starts : Visit → Prop} (grounded : before.Grounded sources starts)
    (extended : (start sources.host).Extends before) (number : before.number? site = some id) :
    ∃ node rule, node.site = site ∧ before.table.rule? id = some rule ∧
      before.RefersEach sources starts node rule.inner := by
  obtain ⟨positive, le⟩ := grounded.distinct.range number
  obtain ⟨rule, found⟩ := extended.filled id positive le
  obtain ⟨node, here, refers⟩ := (grounded.rules found).met site number
  exact ⟨node, rule, here, found, refers⟩

/-- The patterns of a rule are compiled to the same rules in any order of the patterns of another
rule. -/
theorem reordered_rules_compile_alike (sorted : sources.Sorted)
    (found : sources.descend? holder = some rule)
    (reorders : order.Perm (List.range rule.patterns.length))
    (run : (start sources.host).compileRoot sources.library = (.ok root, before))
    (run' : (start (sources.reorder holder order).host).compileRoot
      (sources.reorder holder order).library = (.ok root', after))
    (apart : site ≠ holder) (number : before.number? (holder.origin order site) = some id)
    (number' : after.number? site = some id') :
    ∃ node first second, sources.Written node ∧ node.site = holder.origin order site ∧
      before.table.rule? id = some first ∧ after.table.rule? id' = some second ∧
      CompiledAlike sources (holder.origin order) before after node first second := by
  obtain ⟨grounded, given⟩ := grounded_compileRoot (fun _ root => root) run
  obtain ⟨grounded', given'⟩ := grounded_compileRoot (fun _ root => root) run'
  obtain ⟨node, first, here, at_id, -, outer, around, way, entries⟩ :=
    grounded.exists_met (given root rfl).1 number
  obtain ⟨other, second, rfl, at_id', -, outer', around', way', entries'⟩ :=
    grounded'.exists_met (given' root' rfl).1 number'
  have written := way.written_of_root
  have written' := way'.written_of_root
  -- the way on which the rule is met now leads to it before, if perhaps not first
  obtain ⟨_, retraced, moved⟩ := Sources.exists_former_way sorted found reorders way'
  cases moved with
  | rule _ here' moved =>
    obtain rfl := retraced.written_of_root.eq_of_site written sorted (here'.trans here.symm)
    have alike := Sources.outline_eq_of_written sorted found reorders written written' here
    have moved := Sources.moved_inside here alike moved
    have same := Sources.entries_reorder sorted found reorders written written' here apart
    refine ⟨_, first, second, written, here, at_id, at_id', entries.length_eq.symm,
      entries'.length_eq.symm.trans same.length_eq.symm, ?_⟩
    intro index entry ref ref' listed settled there there'
    obtain ⟨entry', listed', included, place⟩ := exists_of_getElem?_of_forall₂ same listed
    have refers := of_getElem?_of_forall₂ entries listed there
    have refers' := of_getElem?_of_forall₂ entries' listed' there'
    cases is : entry.rule.includeName with
    | none => exact ⟨entry'.site, place ▸ refers.own is, refers'.own (included.symm.trans is)⟩
    | some text =>
      obtain ⟨_, target, means, target_number⟩ := refers.included text is
      obtain ⟨_, target', means', target_number'⟩ :=
        refers'.included text (included.symm.trans is)
      obtain ⟨_, former, meant, before_there⟩ :=
        Sources.exists_former_means sorted found reorders moved means'
      have agree := settled text is _ _ _ _ _ _ _ _ way retraced means meant
      exact ⟨target'.site, before_there ▸ agree ▸ target_number, target_number'⟩

/-- A rule that has a rule for itself, which it includes after another one. -/
def owner : RuleDef where
  patterns := [{ includeName := some "#shared" }, { includeName := some "#x" }]
  repository := some [("x", { matchPattern := some "2" })]

/-- A grammar with two ways to one rule. One of them leads through the rule that has a rule for
itself by the name that is included there. -/
def shared : Sources where
  host :=
    { scopeName := "t"
      patterns := [{ includeName := some "#a" }, { includeName := some "#b" }]
      repository := [
        ("a", owner),
        ("b", { patterns := [{ includeName := some "#shared" }] }),
        ("shared", { patterns := [{ includeName := some "#x" }] }),
        ("x", { matchPattern := some "1" })] }
  library := {}

/-- The rule that stands for the grammar, whose patterns change places. -/
def sharedTop : Site := ⟨"t", [.self]⟩

/-- The rule with its place. -/
def ownerNode : Node := ⟨⟨"t", [.entry "a"]⟩, owner⟩

theorem found_shared :
    shared.descend? sharedTop = some (LinkedGrammar.selfNode shared.host).rule := rfl

theorem sorted_shared : shared.Sorted := by
  have included := RuleDef.Sorted.ofInclude
  have matched := RuleDef.Sorted.ofMatch
  have grouped (text : String) :
      ({ patterns := [{ includeName := some text }] } : RuleDef).Sorted :=
    .ofPatterns (List.forall_mem_singleton.mpr (included text))
  have own : ∀ entries ∈ some [("x", ({ matchPattern := some "2" } : RuleDef))],
      RuleDef.SortedEntries entries := by
    rintro _ ⟨⟩
    exact ⟨List.pairwise_singleton _ _, List.forall_mem_singleton.mpr (matched "2")⟩
  have both (first second : String) : ∀ pattern ∈ [({ includeName := some first } : RuleDef),
      { includeName := some second }], pattern.Sorted := by
    simp only [List.forall_mem_cons]
    exact ⟨included first, included second, List.forall_mem_nil _⟩
  refine ⟨⟨?_, ⟨?_, ?_⟩, RuleDef.sortedEntries_nil⟩, Library.wellFormed_empty⟩
  · exact both _ _
  · unfold Keyed.Increasing
    decide
  · simp only [shared, List.forall_mem_cons]
    exact ⟨.of_entries RuleDef.Sorted.empty.capturesIn (both _ _) own, grouped _, grouped _,
      matched "1", List.forall_mem_nil _⟩

/-- Both orders compile, to what a check accepts. -/
theorem exists_compiled_of_check (sources : Sources) (holder : Site) (order : List Nat)
    (check : Compilation → Compilation → Bool)
    (accepts : (match (start sources.host).compileRoot sources.library,
        (start (sources.reorder holder order).host).compileRoot
          (sources.reorder holder order).library with
      | (.ok _, before), (.ok _, after) => check before after
      | _, _ => false) = true) :
    ∃ root root' before after,
      (start sources.host).compileRoot sources.library = (.ok root, before) ∧
      (start (sources.reorder holder order).host).compileRoot
        (sources.reorder holder order).library = (.ok root', after) ∧ check before after := by
  split at accepts
  · next run run' => exact ⟨_, _, _, _, run, run', accepts⟩
  · cases accepts

/-- In the other order the first rule comes last, and still includes the rule that it has for
itself. -/
theorem reordered_rules_compile_alike_shared :
    ∃ root root' before after first second,
      (start shared.host).compileRoot shared.library = (.ok root, before) ∧
      (start (shared.reorder sharedTop [1, 0]).host).compileRoot
        (shared.reorder sharedTop [1, 0]).library = (.ok root', after) ∧
      shared.Sorted ∧ ownerNode.site ≠ sharedTop ∧ before.number? ownerNode.site = some 2 ∧
      after.number? ownerNode.site = some 5 ∧ before.table.rule? 2 = some first ∧
      after.table.rule? 5 = some second ∧
      CompiledAlike shared (sharedTop.origin [1, 0]) before after ownerNode first second ∧
      first.inner.patterns = [3, 4] ∧ second.inner.patterns = [3, 6] ∧
      ∃ place, before.number? (sharedTop.origin [1, 0] place) = some 4 ∧
        after.number? place = some 6 := by
  obtain ⟨root, root', before, after, run, run', checked⟩ := exists_compiled_of_check
    shared sharedTop [1, 0] (fun before after => before.number? ownerNode.site = some 2 ∧
      after.number? ownerNode.site = some 5 ∧
      (before.table.rule? 2).map (·.inner.patterns) = some [3, 4] ∧
      (after.table.rule? 5).map (·.inner.patterns) = some [3, 6]) (by decide +kernel)
  obtain ⟨number, number', patterns, patterns'⟩ := of_decide_eq_true checked
  have apart : ownerNode.site ≠ sharedTop := nofun
  have same : sharedTop.origin [1, 0] ownerNode.site = ownerNode.site := by decide
  obtain ⟨node, first, second, written, here, at_two, at_five, alike⟩ :=
    reordered_rules_compile_alike sorted_shared found_shared (List.Perm.swap 0 1 []) run run' apart
      (same.symm ▸ number) number'
  obtain rfl : node = ownerNode :=
    written.eq_of_site (sorted_shared.written rfl) sorted_shared (here.trans same)
  rw [at_two] at patterns
  rw [at_five] at patterns'
  replace patterns : first.inner.patterns = [3, 4] := Option.some.inj patterns
  replace patterns' : second.inner.patterns = [3, 6] := Option.some.inj patterns'
  have settled : ∀ text ∈ some "#x", shared.Settled shared.Root ownerNode text := by
    rintro _ ⟨⟩
    exact Sources.settled_of_own rfl rfl (by decide +kernel) List.mem_cons_self
  have moved := alike.patterns 1 _ 4 6 rfl settled (by rw [patterns]; rfl) (by rw [patterns']; rfl)
  exact ⟨root, root', before, after, first, second, run, run', sorted_shared, apart, number,
    number', at_two, at_five, alike, patterns, patterns', moved⟩

/-! ## What depends on the order -/

/-- The number to which the first pattern of the rule at a place is compiled. -/
def firstPattern? (compilation : Compilation) (site : Site) : Option RuleId := do
  let id ← compilation.number? site
  let rule ← compilation.table.rule? id
  rule.inner.patterns.head?

/-- Both orders compile, but the first pattern of the rule at a place is compiled to rules of two
different places. -/
def CompiledApart (sources : Sources) (holder : Site) (order : List Nat) (site : Site) : Prop :=
  ∃ root root' before after ref ref',
    (start sources.host).compileRoot sources.library = (.ok root, before) ∧
    (start (sources.reorder holder order).host).compileRoot
      (sources.reorder holder order).library = (.ok root', after) ∧
    before.firstPattern? (holder.origin order site) = some ref ∧
    after.firstPattern? site = some ref' ∧
    ∀ place, before.number? (holder.origin order place) = some ref → after.number? place ≠ some ref'

theorem compiledApart_of_check (ref ref' : RuleId)
    (accepts : (match (start sources.host).compileRoot sources.library,
        (start (sources.reorder holder order).host).compileRoot
          (sources.reorder holder order).library with
      | (.ok _, before), (.ok _, after) =>
        decide (before.firstPattern? (holder.origin order site) = some ref ∧
          after.firstPattern? site = some ref' ∧
          ∀ entry ∈ after.numbers, entry.2 = ref' →
            before.number? (holder.origin order entry.1) ≠ some ref)
      | _, _ => false) = true) : CompiledApart sources holder order site := by
  obtain ⟨root, root', before, after, run, run', checked⟩ :=
    exists_compiled_of_check _ _ _ _ accepts
  obtain ⟨first, second, apart⟩ := of_decide_eq_true checked
  refine ⟨root, root', before, after, ref, ref', run, run', first, second, fun place here now => ?_⟩
  obtain ⟨early, late, numbers, -⟩ := List.lookup_eq_some_iff.mp now
  have mem : (place, ref') ∈ after.numbers := numbers ▸ List.mem_append_right _ List.mem_cons_self
  exact apart _ mem rfl here

/-- What the shared rule includes depends on the order, since the first rule has a rule for itself
by the name. -/
theorem shared_rule_compiles_apart :
    [1, 0].Perm (List.range shared.host.patterns.length) ∧
      CompiledApart shared sharedTop [1, 0] ⟨"t", [.entry "shared"]⟩ :=
  ⟨List.Perm.swap 0 1 [], compiledApart_of_check 4 4 (by decide +kernel)⟩

/-- Two grammars, of which the second one includes its base. A rule has a rule for itself by the
name that is given to the base. -/
def rebased : Sources where
  host :=
    { scopeName := "A"
      patterns := [{ includeName := some "#own" }, { includeName := some "B" }]
      repository := [
        ("own",
          { patterns := [{ includeName := some "B" }, { includeName := some "$base" }]
            repository := some [("$base", { patterns := [{ includeName := some "#x" }] })] }),
        ("x", { matchPattern := some "1" })] }
  library := ({} : Library).add
    { scopeName := "B"
      patterns := [{ includeName := some "$base" }]
      repository := [("x", { matchPattern := some "2" })] }

/-- Such a rule may be compiled as one of either grammar. So what it includes depends on the order,
though no rule has a rule for itself by the name. -/
theorem own_base_compiles_apart :
    [1, 0].Perm (List.range rebased.host.patterns.length) ∧
      CompiledApart rebased ⟨"A", [.self]⟩ [1, 0] ⟨"A", [.entry "$base", .entry "own"]⟩ :=
  ⟨List.Perm.swap 0 1 [], compiledApart_of_check 5 5 (by decide +kernel)⟩

end Compilation

end ScopeTokenizer.Grammar
