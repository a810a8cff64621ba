import Mathlib.Data.List.Forall2
import ScopeTokenizer.Proofs.Grammar.Compiling
import ScopeTokenizer.Proofs.Grammar.Places

/-!
# What compiled rules render

A compiled rule says the same as the rule that it was compiled from, in numbers instead of places.
What was rendered once stays so while more rules are compiled, since places keep their numbers
and rules stay as they are.
-/

namespace ScopeTokenizer.Grammar

open Pattern Scope Text

/-- The captures whose keys are numbers, by these. -/
def groups (captures : List (String × Node)) : List (Nat × Node) :=
  (captures.filter fun entry => Compile.isNumber entry.1).map fun entry =>
    (Source.groupNumber entry.1.toList, entry.2)

namespace Compilation

/-- The number of a place. -/
def number? (compilation : Compilation) (site : Site) : Option RuleId :=
  compilation.numbers.lookup site

/-! ## Rendering -/

section Rendering

variable (sources : Sources) (compilation : Compilation)

/-- The rule with a number is that of a capture. The captured text is read again only if the
capture has patterns. -/
def RendersCapture (node : Node) (id : RuleId) : Prop :=
  ∃ inner, compilation.table.rule? id =
      some ⟨id, node.rule.name.map .ofText, .capture (node.rule.contentName.map .ofText) inner⟩ ∧
    inner = (if node.rule.hasPatterns then compilation.number? node.site else none) ∧
    inner.isSome = node.rule.hasPatterns

/-- A list has the rules of captures by their numbers. Of several captures with one number the
last one counts. -/
structure RendersGroups (groups : List (Nat × Node)) (rules : List (Option RuleId)) : Prop where
  taken : ∀ group node, groups.reverse.lookup group = some node →
    ∃ id, rules[group]? = some (some id) ∧ compilation.RendersCapture node id
  empty : ∀ group, groups.reverse.lookup group = none → rules[group]?.join = none
  reread : ∀ entry ∈ groups, entry.2.rule.hasPatterns →
    (compilation.number? entry.2.site).isSome

/-- A list has the rules of those captures whose keys are numbers, up to the greatest number. -/
structure RendersCaptures (captures : List (String × Node)) (rules : List (Option RuleId)) : Prop
    extends compilation.RendersGroups (groups captures) rules where
  length_eq : rules.length =
    (groups captures).foldl (fun size entry => max size (entry.1 + 1)) 0

/-- Numbers stand one by one for what entries mean. -/
def RendersEntries (entries : List Node) (ids : List RuleId) : Prop :=
  List.Forall₂ (fun entry id => ∃ target, sources.meant? entry = some target ∧
    compilation.number? target.site = some id) entries ids

/-- What a rule does is what the written rule says. The first one of its patterns that is given
decides. -/
inductive RendersKind (node : Node) : RuleKind → Prop where
  | single {pattern : String} {captures : List (Option RuleId)} :
      node.rule.matchPattern = some pattern → compilation.RendersCaptures node.captures captures →
      RendersKind node (.single ⟨.ofText pattern, captures⟩)
  | container {ids : List RuleId} :
      node.rule.matchPattern = none → node.rule.beginPattern = none →
      compilation.RendersEntries sources node.entries ids →
      RendersKind node (.container (node.rule.contentName.map .ofText) ⟨ids, false⟩)
  | lines {pattern condition : String} {captures conditionCaptures : List (Option RuleId)}
      {ids : List RuleId} :
      node.rule.matchPattern = none → node.rule.beginPattern = some pattern →
      node.rule.whilePattern = some condition →
      compilation.RendersCaptures node.beginCaptures captures →
      compilation.RendersCaptures node.whileCaptures conditionCaptures →
      compilation.RendersEntries sources node.entries ids →
      RendersKind node (.lines (node.rule.contentName.map .ofText) ⟨.ofText pattern, captures⟩
        ⟨.ofText condition, conditionCaptures⟩ ⟨ids, false⟩)
  | region {pattern : String} {captures closingCaptures : List (Option RuleId)}
      {ids : List RuleId} :
      node.rule.matchPattern = none → node.rule.beginPattern = some pattern →
      node.rule.whilePattern = none →
      compilation.RendersCaptures node.beginCaptures captures →
      compilation.RendersCaptures node.endCaptures closingCaptures →
      compilation.RendersEntries sources node.entries ids →
      RendersKind node (.region (node.rule.contentName.map .ofText) ⟨.ofText pattern, captures⟩
        ⟨.ofText (node.rule.endPattern.getD Compile.noEnd), closingCaptures⟩
        node.rule.endPatternLast ⟨ids, false⟩)

/-- A rule says the same as the written one. -/
structure Renders (node : Node) (rule : Rule) : Prop where
  name : rule.name = node.rule.name.map .ofText
  kind : compilation.RendersKind sources node rule.kind

end Rendering

section Parts

variable {sources : Sources} {compilation : Compilation} {node : Node} {kind : RuleKind}

theorem RendersEntries.exists_of_mem {entries : List Node} {ids : List RuleId}
    (renders : compilation.RendersEntries sources entries ids) {entry : Node}
    (mem : entry ∈ entries) :
    ∃ id target, sources.meant? entry = some target ∧ compilation.number? target.site = some id := by
  induction renders with
  | nil => cases mem
  | @cons first id entries ids here _ ih =>
    rcases List.mem_cons.mp mem with rfl | mem
    · exact ⟨id, here⟩
    · exact ih mem

/-- What an entry of a rule means has a number, if the rule is rendered. -/
theorem RendersKind.exists_of_mem_entries (renders : compilation.RendersKind sources node kind)
    {entry : Node} (mem : entry ∈ node.entries) :
    ∃ id target, sources.meant? entry = some target ∧ compilation.number? target.site = some id := by
  cases renders with
  | single matched _ =>
    unfold Node.entries at mem
    rw [matched] at mem
    cases mem
  | container _ _ entries => exact entries.exists_of_mem mem
  | lines _ _ _ _ _ entries => exact entries.exists_of_mem mem
  | region _ _ _ _ _ entries => exact entries.exists_of_mem mem

theorem RendersKind.exists_of_mem_captureLists
    (renders : compilation.RendersKind sources node kind) {captures : List (String × Node)}
    (mem : captures ∈ node.captureLists) :
    ∃ rules, compilation.RendersCaptures captures rules := by
  unfold Node.captureLists at mem
  cases renders with
  | single matched rendered =>
    rw [matched] at mem
    obtain rfl := List.mem_singleton.mp mem
    exact ⟨_, rendered⟩
  | container plain bare _ =>
    rw [plain, bare] at mem
    cases mem
  | lines plain begins continues first second _ =>
    rw [plain, begins, continues] at mem
    rcases List.mem_cons.mp mem with rfl | mem
    · exact ⟨_, first⟩
    · obtain rfl := List.mem_singleton.mp mem
      exact ⟨_, second⟩
  | region plain begins ends first second _ =>
    rw [plain, begins, ends] at mem
    rcases List.mem_cons.mp mem with rfl | mem
    · exact ⟨_, first⟩
    · obtain rfl := List.mem_singleton.mp mem
      exact ⟨_, second⟩

end Parts

/-! ## Keeping -/

/-- Places keep their numbers, and rules stay as they are. -/
structure Keeps (before after : Compilation) : Prop where
  number? : ∀ {site id}, before.number? site = some id → after.number? site = some id
  rule? : ∀ {id rule}, before.table.rule? id = some rule → after.table.rule? id = some rule

namespace Keeps

variable {sources : Sources} {before after : Compilation} {node : Node}

theorem rendersCapture (keeps : before.Keeps after) {id : RuleId}
    (renders : before.RendersCapture node id) : after.RendersCapture node id := by
  obtain ⟨inner, found, is, rereads⟩ := renders
  refine ⟨inner, keeps.rule? found, ?_, rereads⟩
  split
  · next again =>
    rw [again] at rereads
    obtain ⟨number, some⟩ := Option.isSome_iff_exists.mp rereads
    rw [if_pos again, some] at is
    rw [some, keeps.number? is.symm]
  · next plain => rw [is, if_neg plain]

theorem rendersGroups (keeps : before.Keeps after) {groups : List (Nat × Node)}
    {rules : List (Option RuleId)} (renders : before.RendersGroups groups rules) :
    after.RendersGroups groups rules where
  taken := fun group node last => by
    obtain ⟨id, at_group, capture⟩ := renders.taken group node last
    exact ⟨id, at_group, keeps.rendersCapture capture⟩
  empty := renders.empty
  reread := fun entry mem again => by
    obtain ⟨id, number⟩ := Option.isSome_iff_exists.mp (renders.reread entry mem again)
    rw [keeps.number? number]
    rfl

theorem rendersCaptures (keeps : before.Keeps after) {captures : List (String × Node)}
    {rules : List (Option RuleId)} (renders : before.RendersCaptures captures rules) :
    after.RendersCaptures captures rules :=
  ⟨keeps.rendersGroups renders.toRendersGroups, renders.length_eq⟩

theorem rendersEntries (keeps : before.Keeps after) {entries : List Node} {ids : List RuleId}
    (renders : before.RendersEntries sources entries ids) :
    after.RendersEntries sources entries ids := by
  refine List.Forall₂.imp (fun entry id => ?_) renders
  rintro ⟨target, means, number⟩
  exact ⟨target, means, keeps.number? number⟩

theorem rendersKind (keeps : before.Keeps after) {kind : RuleKind}
    (renders : before.RendersKind sources node kind) : after.RendersKind sources node kind := by
  cases renders with
  | single matched captures => exact .single matched (keeps.rendersCaptures captures)
  | container plain bare entries => exact .container plain bare (keeps.rendersEntries entries)
  | lines plain begins continues captures conditions entries =>
    exact .lines plain begins continues (keeps.rendersCaptures captures)
      (keeps.rendersCaptures conditions) (keeps.rendersEntries entries)
  | region plain begins ends captures closings entries =>
    exact .region plain begins ends (keeps.rendersCaptures captures)
      (keeps.rendersCaptures closings) (keeps.rendersEntries entries)

theorem renders (keeps : before.Keeps after) {rule : Rule}
    (renders : before.Renders sources node rule) : after.Renders sources node rule :=
  ⟨renders.name, keeps.rendersKind renders.kind⟩

end Keeps

end Compilation

end ScopeTokenizer.Grammar
