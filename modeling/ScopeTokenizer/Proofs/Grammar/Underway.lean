import ScopeTokenizer.Proofs.Grammar.Rendering

/-!
# Compiling underway

While rules are compiled, some places have a number whose rule is still missing. All rules that are
there already render what is written at their places. A compilation goes on by numbering new places
and by filling all of these, before it comes back to those that it left open.
-/

namespace ScopeTokenizer.Grammar

open Pattern Scope Text

namespace Compilation

variable {sources : Sources} {before middle after compilation : Compilation} {node : Node}

/-! ## References -/

theorem RendersCaptures.references_pos {captures : List (String × Node)}
    {rules : List (Option RuleId)} (renders : compilation.RendersCaptures captures rules) :
    ∀ ref ∈ rules.reduceOption, 0 < ref := by
  intro ref mem
  obtain ⟨group, at_group⟩ := List.mem_iff_getElem?.mp (List.reduceOption_mem_iff.mp mem)
  cases last : (groups captures).reverse.lookup group with
  | none =>
    have none := renders.empty group last
    rw [at_group] at none
    cases none
  | some node =>
    obtain ⟨id, same, inner, found, -⟩ := renders.taken group node last
    rw [at_group] at same
    cases same
    cases ref with
    | zero => cases found
    | succ index => exact Nat.succ_pos index

theorem RendersEntries.pos {entries : List Node} {ids : List RuleId}
    (renders : compilation.RendersEntries sources entries ids)
    (positive : ∀ site id, compilation.number? site = some id → 0 < id) : ∀ id ∈ ids, 0 < id := by
  induction renders with
  | nil => exact nofun
  | cons first _ ih =>
    obtain ⟨target, -, number⟩ := first
    exact List.forall_mem_cons.mpr ⟨positive _ _ number, ih⟩

/-- A rule that renders a written one is complete, and refers to numbers of rules only. -/
theorem Renders.sound {rule : Rule} (renders : compilation.Renders sources node rule)
    (positive : ∀ site id, compilation.number? site = some id → 0 < id) :
    rule.inner.incomplete = false ∧ ∀ ref ∈ rule.references, 0 < ref := by
  obtain ⟨id, name, kind⟩ := rule
  cases renders.kind with
  | single _ captures => exact ⟨rfl, captures.references_pos⟩
  | container _ _ entries => exact ⟨rfl, entries.pos positive⟩
  | lines _ _ _ captures conditions entries =>
    have matchings := List.forall_mem_append.mpr
      ⟨captures.references_pos, conditions.references_pos⟩
    exact ⟨rfl, List.forall_mem_append.mpr ⟨matchings, entries.pos positive⟩⟩
  | region _ _ _ captures closings entries =>
    have matchings := List.forall_mem_append.mpr
      ⟨captures.references_pos, closings.references_pos⟩
    exact ⟨rfl, List.forall_mem_append.mpr ⟨matchings, entries.pos positive⟩⟩

/-! ## Going on -/

/-- A compilation has gone on, and has left no new place open. -/
structure Extends (before after : Compilation) : Prop where
  table : before.table.Grows after.table
  number? : ∀ {site id}, before.number? site = some id → after.number? site = some id
  filled : ∀ id, before.table.size < id → id ≤ after.table.size →
    ∃ rule, after.table.rule? id = some rule

theorem Extends.refl (compilation : Compilation) : compilation.Extends compilation :=
  ⟨.refl _, id, fun _ above le => absurd (Nat.lt_of_lt_of_le above le) (Nat.lt_irrefl _)⟩

theorem Extends.keeps (extends' : before.Extends after) : before.Keeps after where
  number? := extends'.number?
  rule? := fun found =>
    (extends'.table.kept _ (RuleTable.le_size_of_rule? found)).trans found

theorem Extends.trans (first : before.Extends middle) (second : middle.Extends after) :
    before.Extends after where
  table := first.table.trans second.table
  number? := fun number => second.number? (first.number? number)
  filled := fun id above le => by
    by_cases early : id ≤ middle.table.size
    · obtain ⟨rule, found⟩ := first.filled id above early
      exact ⟨rule, second.keeps.rule? found⟩
    · exact second.filled id (Nat.lt_of_not_le early) le

/-- Fills the place of a rule. -/
def put (compilation : Compilation) (rule : Rule) : Compilation :=
  { compilation with table := compilation.table.put rule }

/-- Takes the next number, whose place stays open. -/
def reserve (compilation : Compilation) : Compilation :=
  { compilation with table := compilation.table.reserve.2 }

/-- Takes the next number, as that of a place. -/
def openAt (compilation : Compilation) (site : Site) : Compilation :=
  { compilation.reserve with
    numbers := (site, compilation.table.size + 1) :: compilation.numbers }

theorem number?_openAt (compilation : Compilation) (site other : Site) :
    (compilation.openAt site).number? other =
      if other = site then some (compilation.table.size + 1) else compilation.number? other := by
  simp only [number?, Compilation.openAt, List.lookup_cons]
  split
  · next is => rw [if_pos (beq_iff_eq.mp is)]
  · next apart => rw [if_neg (by simpa using apart)]

/-- A place without a number may get one. -/
theorem number?_openAt_of_fresh {site other : Site} {id : RuleId}
    (fresh : compilation.number? site = none) (number : compilation.number? other = some id) :
    (compilation.openAt site).number? other = some id := by
  rw [number?_openAt, if_neg]
  · exact number
  · rintro rfl
    cases fresh.symm.trans number

theorem size_reserve_le (compilation : Compilation) :
    compilation.table.size + 1 ≤ compilation.reserve.table.size :=
  Nat.le_of_eq (RuleTable.size_reserve _).symm

/-- The place of the next number is empty. -/
theorem rule?_reserve_size (compilation : Compilation) :
    compilation.reserve.table.rule? (compilation.table.size + 1) = none := by
  rw [reserve, RuleTable.rule?_reserve, Option.eq_none_iff_forall_ne_some]
  intro rule found
  exact absurd (RuleTable.le_size_of_rule? found) (Nat.not_succ_le_self _)

/-! ## Runs with answers -/

theorem run_bind_eq_ok {α β : Type} {library : Library} {first : Compile α} {next : α → Compile β}
    {b : β} (run : before.run library (first >>= next) = (.ok b, after)) :
    ∃ a middle, before.run library first = (.ok a, middle) ∧
      middle.run library (next a) = (.ok b, after) := by
  rw [run_bind] at run
  split at run
  · next a middle first => exact ⟨a, middle, first, run⟩
  · cases run

theorem run_register_eq_ok {library : Library} {make : RuleId → Compile Rule} {id : RuleId}
    (run : before.run library (Compile.register make) = (.ok id, after)) :
    id = before.table.size + 1 ∧
      ∃ rule middle, before.reserve.run library (make (before.table.size + 1)) =
        (.ok rule, middle) ∧ after = middle.put rule := by
  rw [run_register] at run
  split at run
  · next rule middle made =>
    cases run
    exact ⟨rfl, rule, middle, made, rfl⟩
  · cases run

/-- Looking for the captures with numbers changes nothing, also if one is out of range. -/
theorem run_numbered (compilation : Compilation) (library : Library) (around : Surroundings)
    (captures : List (String × Node)) : ∃ answer,
      compilation.run library (Compile.numbered around captures) = (answer, compilation) ∧
        ∀ made, answer = .ok made → made = groups captures := by
  unfold Compile.numbered groups
  induction captures.filter fun entry => Compile.isNumber entry.1 with
  | nil =>
    refine ⟨_, rfl, ?_⟩
    rintro _ ⟨⟩
    rfl
  | cons entry entries ih =>
    obtain ⟨rest, run, given⟩ := ih
    simp only [List.mapM_cons, List.map_cons]
    split
    · rw [pure_bind, run_bind, run]
      cases rest with
      | error error => exact ⟨_, rfl, nofun⟩
      | ok made =>
        refine ⟨_, rfl, ?_⟩
        rintro _ ⟨⟩
        rw [given made rfl]
    · exact ⟨_, rfl, nofun⟩

/-- A place that was taken is filled last. -/
theorem Extends.put (later : middle.Extends after) (table : before.table.Grows middle.table)
    (size : middle.table.size = before.table.size + 1)
    (number? : ∀ {site id}, before.number? site = some id → middle.number? site = some id)
    (rule : Rule) (is : rule.id = before.table.size + 1) :
    before.Extends (after.put rule) where
  table := (table.trans later.table).put (is ▸ Nat.lt_succ_self _)
  number? := fun number => later.number? (number? number)
  filled := fun id above le => by
    have positive : 0 < rule.id := is ▸ Nat.succ_pos _
    have le : id ≤ after.table.size := by
      rw [← RuleTable.size_put after.table rule]
      exact le
    by_cases own : id = rule.id
    · rw [own] at le ⊢
      exact ⟨rule, after.table.rule?_put_self positive le⟩
    · have apart : before.table.size + 1 ≠ id := fun same => own (same.symm.trans is.symm)
      have behind : middle.table.size < id := size ▸ Nat.lt_of_le_of_ne above apart
      obtain ⟨other, found⟩ := later.filled id behind le
      exact ⟨other, (after.table.rule?_put_of_ne own positive).trans found⟩

/-! ## Numbers of places -/

/-- All numbers of places are in the table, and no two places share one. -/
structure Distinct (compilation : Compilation) : Prop where
  range : ∀ {site id}, compilation.number? site = some id → 0 < id ∧ id ≤ compilation.table.size
  apart : ∀ {site other id}, compilation.number? site = some id →
    compilation.number? other = some id → site = other

namespace Distinct

theorem reserve (distinct : compilation.Distinct) : compilation.reserve.Distinct := by
  refine ⟨fun number => ⟨(distinct.range number).1, ?_⟩, distinct.apart⟩
  exact Nat.le_trans (distinct.range number).2 (Nat.le_of_succ_le compilation.size_reserve_le)

theorem openAt (distinct : compilation.Distinct) (site : Site) :
    (compilation.openAt site).Distinct := by
  have last {other : Site} {id : RuleId}
      (number : (compilation.openAt site).number? other = some id) :
      other = site ∧ id = compilation.table.size + 1 ∨ compilation.number? other = some id := by
    rw [number?_openAt] at number
    split at number
    · next is => exact .inl ⟨is, (Option.some.inj number).symm⟩
    · exact .inr number
  have unused {other : Site}
      (number : compilation.number? other = some (compilation.table.size + 1)) : False :=
    Nat.lt_irrefl _ (distinct.range number).2
  constructor
  · intro other id number
    rcases last number with ⟨-, rfl⟩ | early
    · exact ⟨Nat.succ_pos _, compilation.size_reserve_le⟩
    · exact distinct.reserve.range early
  · intro first second id number number'
    rcases last number with ⟨rfl, rfl⟩ | early
    · rcases last number' with ⟨rfl, -⟩ | early'
      · rfl
      · exact (unused early').elim
    · rcases last number' with ⟨rfl, rfl⟩ | early'
      · exact (unused early).elim
      · exact distinct.apart early early'

theorem put (distinct : compilation.Distinct) (rule : Rule) : (compilation.put rule).Distinct := by
  refine ⟨fun number => ⟨(distinct.range number).1, ?_⟩, distinct.apart⟩
  rw [Compilation.put, RuleTable.size_put]
  exact (distinct.range number).2

end Distinct

/-- The number is that of the place of what was looked for. -/
def NumberOf (target? : Option Node) (id : RuleId) (compilation : Compilation) : Prop :=
  ∃ target, target? = some target ∧ compilation.number? target.site = some id

/-! ## Being on course -/

/-- All that was compiled so far is as the sources say. The rule that stands for the host has its
number from the start. -/
structure OnCourse (sources : Sources) (compilation : Compilation) : Prop where
  host : compilation.host = .ofDef sources.host none
  included : ∀ {scope grammar}, compilation.included.find? scope = some grammar →
    sources.linked? scope = some grammar
  base : compilation.number? sources.base.site = some 1
  range : ∀ {site id}, compilation.number? site = some id → 0 < id ∧ id ≤ compilation.table.size
  apart : ∀ {site other id}, compilation.number? site = some id →
    compilation.number? other = some id → site = other
  renders : ∀ {site id}, compilation.number? site = some id → ∃ node, sources.Reached node ∧
    node.site = site ∧ ∀ rule, compilation.table.rule? id = some rule →
      compilation.Renders sources node rule
  sound : ∀ {id rule}, compilation.table.rule? id = some rule →
    rule.inner.incomplete = false ∧ ∀ ref ∈ rule.references, 0 < ref

namespace OnCourse

/-- A grammar may be included as the sources have it. -/
theorem withIncluded (course : compilation.OnCourse sources) {scope : String}
    {grammar : LinkedGrammar} (linked : sources.linked? scope = some grammar) (extent : Nat) :
    { compilation with
      included := compilation.included.insert scope grammar
      extent }.OnCourse sources := by
  have keeps : compilation.Keeps
      { compilation with
        included := compilation.included.insert scope grammar
        extent } := ⟨id, id⟩
  refine ⟨course.host, fun {other _} known => ?_, course.base, course.range, course.apart,
    fun number => ?_, course.sound⟩
  · rw [Keyed.find?_insert] at known
    split at known
    · next is =>
      cases known
      rw [← is]
      exact linked
    · exact course.included known
  · obtain ⟨node, reached, here, renders⟩ := course.renders number
    exact ⟨node, reached, here, fun rule found => keeps.renders (renders rule found)⟩

theorem distinct (course : compilation.OnCourse sources) : compilation.Distinct :=
  ⟨course.range, course.apart⟩

theorem reserve (course : compilation.OnCourse sources) : compilation.reserve.OnCourse sources := by
  have keeps : compilation.Keeps compilation.reserve :=
    ⟨id, fun found => (compilation.table.rule?_reserve _).trans found⟩
  constructor
  · exact course.host
  · exact course.included
  · exact course.base
  · intro site id number
    refine ⟨(course.range number).1, ?_⟩
    rw [Compilation.reserve, RuleTable.size_reserve]
    exact Nat.le_succ_of_le (course.range number).2
  · exact course.apart
  · intro site id number
    obtain ⟨node, reached, here, renders⟩ := course.renders number
    refine ⟨node, reached, here, fun rule found => keeps.renders (renders rule ?_)⟩
    rwa [Compilation.reserve, RuleTable.rule?_reserve] at found
  · intro id rule found
    rw [Compilation.reserve, RuleTable.rule?_reserve] at found
    exact course.sound found

/-- A rule that is reached may get a number, if its place has none. -/
theorem openAt (course : compilation.OnCourse sources) (reached : sources.Reached node)
    (fresh : compilation.number? node.site = none) :
    (compilation.openAt node.site).OnCourse sources := by
  have reserved := course.reserve
  have distinct := course.distinct.openAt node.site
  have keeps : compilation.reserve.Keeps (compilation.openAt node.site) :=
    ⟨number?_openAt_of_fresh fresh, id⟩
  refine ⟨course.host, course.included, number?_openAt_of_fresh fresh course.base, distinct.range,
    distinct.apart, ?_, reserved.sound⟩
  intro site id number
  rw [number?_openAt] at number
  split at number
  · next is =>
    cases number
    refine ⟨node, reached, is.symm, fun rule found => ?_⟩
    rw [Compilation.openAt, Compilation.reserve, RuleTable.rule?_reserve] at found
    exact absurd (RuleTable.le_size_of_rule? found) (Nat.not_succ_le_self _)
  · obtain ⟨node, reached, here, renders⟩ := reserved.renders number
    exact ⟨node, reached, here, fun rule found => keeps.renders (renders rule found)⟩

/-- A place that is filled goes on to be on course, if the rule in it is what the place of its
number needs. -/
theorem put (course : compilation.OnCourse sources) (rule : Rule) (positive : 0 < rule.id)
    (le : rule.id ≤ compilation.table.size) (fresh : compilation.table.rule? rule.id = none)
    (sound : rule.inner.incomplete = false ∧ ∀ ref ∈ rule.references, 0 < ref)
    (renders : ∀ site, compilation.number? site = some rule.id → ∃ node, sources.Reached node ∧
      node.site = site ∧ compilation.Renders sources node rule) :
    (compilation.put rule).OnCourse sources ∧ compilation.Keeps (compilation.put rule) := by
  have own : (compilation.put rule).table.rule? rule.id = some rule :=
    compilation.table.rule?_put_self positive le
  have others {id : RuleId} (other : id ≠ rule.id) :
      (compilation.put rule).table.rule? id = compilation.table.rule? id :=
    compilation.table.rule?_put_of_ne other positive
  have keeps : compilation.Keeps (compilation.put rule) := by
    refine ⟨id, fun {number _} found => ?_⟩
    rw [others]
    · exact found
    · rintro rfl
      cases fresh.symm.trans found
  refine ⟨?_, keeps⟩
  constructor
  · exact course.host
  · exact course.included
  · exact course.base
  · intro site id number
    refine ⟨(course.range number).1, ?_⟩
    rw [Compilation.put, RuleTable.size_put]
    exact (course.range number).2
  · exact course.apart
  · intro site id number
    by_cases is : id = rule.id
    · subst is
      obtain ⟨node, reached, here, renders⟩ := renders site number
      refine ⟨node, reached, here, fun other found => ?_⟩
      rw [own] at found
      cases found
      exact keeps.renders renders
    · obtain ⟨node, reached, here, renders⟩ := course.renders number
      refine ⟨node, reached, here, fun other found => ?_⟩
      rw [others is] at found
      exact keeps.renders (renders other found)
  · intro id other found
    by_cases is : id = rule.id
    · subst is
      rw [own] at found
      cases found
      exact sound
    · rw [others is] at found
      exact course.sound found

end OnCourse

end Compilation

end ScopeTokenizer.Grammar
