import Mathlib.Logic.Relation
import ScopeTokenizer.Proofs.Grammar.Growth

/-!
# Flattening containers

A search inside a rule looks for the patterns of all rules that can be reached through containers.
They are gathered in a walk that opens each container once, and so ends although containers may
include one another in cycles. Two things are shown of it: all the rules that can be reached are
found, and no others; and where there is no cycle, the rules come in the same order of precedence
as if every container were opened each time it is met.
-/

namespace ScopeTokenizer.Grammar

open Pattern Relation

/-- What a rule means for a search that meets it. -/
inductive Role where
  /-- The rule takes no part: it is missing, or it only names a capture. -/
  | nothing
  /-- The rule takes part by a pattern. -/
  | pattern (source : Source)
  /-- The rule stands for others. -/
  | container (rules : List RuleId)

namespace RuleTable

variable {table : RuleTable} {gathering middle last : Gathering} {id ref : RuleId}
variable {ids rules : List RuleId}

/-- The role of the rule with a number. A region takes part by the pattern that begins it. -/
def role (table : RuleTable) (id : RuleId) : Role :=
  match table.rule? id with
  | none => .nothing
  | some rule =>
    match rule.kind with
    | .single matching => .pattern matching.pattern
    | .region _ opening _ _ _ => .pattern opening.pattern
    | .lines _ opening _ _ => .pattern opening.pattern
    | .container _ inner => .container inner.patterns
    | .capture _ _ => .nothing

/-- The rules that are listed inside a rule. -/
def inside (table : RuleTable) (id : RuleId) : List RuleId :=
  match table.rule? id with
  | none => []
  | some rule => rule.inner.patterns

theorem inside_of_role (role : table.role id = .container rules) : table.inside id = rules := by
  cases found : table.rule? id with
  | none => simp [RuleTable.role, found] at role
  | some rule =>
    obtain ⟨number, name, kind⟩ := rule
    cases kind <;> simp_all [RuleTable.role, inside, Rule.inner]

theorem le_size_of_role (role : table.role id = .container rules) : id ≤ table.size := by
  cases found : table.rule? id with
  | none => simp [RuleTable.role, found] at role
  | some rule => exact le_size_of_rule? found

/-- A container lists a rule. -/
def Includes (table : RuleTable) (id ref : RuleId) : Prop :=
  ∃ rules, table.role id = .container rules ∧ ref ∈ rules

/-- A rule is one of the rules `ids`, or can be reached from one of them through containers. -/
def Reaches (table : RuleTable) (ids : List RuleId) (ref : RuleId) : Prop :=
  ∃ first ∈ ids, ReflTransGen table.Includes first ref

theorem reaches_cons_self : table.Reaches (id :: ids) id := ⟨id, List.mem_cons_self, .refl⟩

theorem Reaches.cons (reaches : table.Reaches ids ref) : table.Reaches (id :: ids) ref := by
  obtain ⟨first, member, reaches⟩ := reaches
  exact ⟨first, List.mem_cons_of_mem id member, reaches⟩

theorem Reaches.within (reaches : table.Reaches rules ref)
    (role : table.role id = .container rules) : table.Reaches (id :: ids) ref := by
  obtain ⟨first, member, reaches⟩ := reaches
  exact ⟨id, List.mem_cons_self, .head ⟨rules, role, member⟩ reaches⟩

/-! ## The walk -/

/-- `Visits table gathering ids last` says that the walk through the rules `ids` ends, and turns
`gathering` into `last`. A container that was met before is passed over. -/
inductive Visits (table : RuleTable) : Gathering → List RuleId → Gathering → Prop where
  | nil (gathering : Gathering) : Visits table gathering [] gathering
  | passes {gathering last : Gathering} {id : RuleId} {ids : List RuleId}
      (role : table.role id = .nothing) (rest : Visits table gathering ids last) :
      Visits table gathering (id :: ids) last
  | takes {gathering last : Gathering} {id : RuleId} {ids : List RuleId} {source : Source}
      (role : table.role id = .pattern source)
      (rest : Visits table { gathering with found := gathering.found ++ [(id, source)] } ids last) :
      Visits table gathering (id :: ids) last
  | again {gathering last : Gathering} {id : RuleId} {ids rules : List RuleId}
      (role : table.role id = .container rules) (met : id ∈ gathering.containers)
      (rest : Visits table gathering ids last) : Visits table gathering (id :: ids) last
  | opens {gathering middle last : Gathering} {id : RuleId} {ids rules : List RuleId}
      (role : table.role id = .container rules) (fresh : id ∉ gathering.containers)
      (within : Visits table { gathering with containers := id :: gathering.containers } rules
        middle)
      (rest : Visits table middle ids last) : Visits table gathering (id :: ids) last

theorem Visits.containers_subset (visits : table.Visits gathering ids last) :
    gathering.containers ⊆ last.containers := by
  induction visits with
  | nil => exact List.Subset.refl _
  | passes _ _ ih => exact ih
  | takes _ _ ih => exact ih
  | again _ _ _ ih => exact ih
  | opens _ _ _ _ inner outer =>
    exact List.Subset.trans (List.subset_cons_self _ _) (List.Subset.trans inner outer)

theorem Visits.found_subset (visits : table.Visits gathering ids last) :
    gathering.found ⊆ last.found := by
  induction visits with
  | nil => exact List.Subset.refl _
  | passes _ _ ih => exact ih
  | takes _ _ ih => exact List.Subset.trans (List.subset_append_left _ _) ih
  | again _ _ _ ih => exact ih
  | opens _ _ _ _ inner outer => exact List.Subset.trans inner outer

theorem gather_succ (table : RuleTable) (depth : Nat) (gathering : Gathering) (id : RuleId) :
    table.gather (depth + 1) gathering id =
      match table.role id with
      | .nothing => gathering
      | .pattern source => { gathering with found := gathering.found ++ [(id, source)] }
      | .container rules =>
        if gathering.containers.contains id then gathering
        else rules.foldl (table.gather depth)
          { gathering with containers := id :: gathering.containers } := by
  simp only [gather, role]
  cases table.rule? id with
  | none => rfl
  | some rule =>
    obtain ⟨number, name, kind⟩ := rule
    cases kind <;> rfl

/-- The walk that a bounded depth allows is the whole walk if there are fewer containers to meet. -/
theorem visits_foldl_gather {depth : Nat} (ids : List RuleId)
    (enough : unmet table.size gathering.containers < depth) :
    table.Visits gathering ids (ids.foldl (table.gather depth) gathering) := by
  induction depth generalizing gathering ids with
  | zero => exact absurd enough (Nat.not_lt_zero _)
  | succ depth ih =>
    induction ids generalizing gathering with
    | nil => exact .nil gathering
    | cons id ids rest =>
      rw [List.foldl_cons, gather_succ]
      cases role : table.role id with
      | nothing => exact .passes role (rest enough)
      | pattern source => exact .takes role (rest enough)
      | container rules =>
        dsimp only
        by_cases met : id ∈ gathering.containers
        · rw [if_pos (List.contains_iff_mem.mpr met)]
          exact .again role met (rest enough)
        · rw [if_neg (fun contains => met (List.contains_iff_mem.mp contains))]
          -- The container itself is one less to meet, so a depth less is enough inside of it.
          have fewer := unmet_cons_lt (le_size_of_role role) met
          let opened : Gathering := { gathering with containers := id :: gathering.containers }
          have within : table.Visits opened rules (rules.foldl (table.gather depth) opened) :=
            ih rules (Nat.lt_of_lt_of_le fewer (Nat.le_of_lt_succ enough))
          have less : unmet table.size (rules.foldl (table.gather depth) opened).containers ≤
              unmet table.size (id :: gathering.containers) :=
            unmet_le_of_subset within.containers_subset
          exact .opens role met within (rest (by omega))

/-- The walk inside a rule. -/
theorem exists_visits_taking
    (multiple : ∀ rule, table.rule? id = some rule → rule.isSingle = false) :
    ∃ last, table.Visits { containers := [id] } (table.inside id) last ∧
      table.taking id = last.found := by
  cases found : table.rule? id with
  | none =>
    refine ⟨{ containers := [id] }, ?_, ?_⟩
    · rw [inside, found]
      exact .nil _
    · rw [taking, found]
  | some rule =>
    have started : unmet table.size [id] < table.size + 1 :=
      Nat.lt_of_lt_of_le (unmet_cons_lt (le_size_of_rule? found) List.not_mem_nil) (unmet_le _ _)
    have walk : table.Visits { containers := [id] } rule.inner.patterns _ :=
      visits_foldl_gather rule.inner.patterns started
    refine ⟨_, by rwa [inside, found], ?_⟩
    have multiple := multiple rule found
    obtain ⟨number, name, kind⟩ := rule
    simp only [taking, found]
    cases kind with
    | single => cases multiple
    | region | lines | container | capture => rfl

/-! ## What the walk finds -/

/-- The walk has been at a rule. -/
structure Met (table : RuleTable) (gathering : Gathering) (id : RuleId) : Prop where
  found : ∀ source, table.role id = .pattern source → (id, source) ∈ gathering.found
  opened : ∀ rules, table.role id = .container rules → id ∈ gathering.containers

theorem Met.mono (met : table.Met gathering id) (found : gathering.found ⊆ last.found)
    (containers : gathering.containers ⊆ last.containers) : table.Met last id := by
  constructor
  · intro source role
    exact found (met.found source role)
  · intro rules role
    exact containers (met.opened rules role)

theorem Met.after (met : table.Met gathering id) (visits : table.Visits gathering ids last) :
    table.Met last id :=
  met.mono visits.found_subset visits.containers_subset

theorem Visits.met (visits : table.Visits gathering ids last) : ∀ id ∈ ids, table.Met last id := by
  induction visits with
  | nil => simp
  | passes role _ ih =>
    rw [List.forall_mem_cons]
    exact ⟨⟨by simp [role], by simp [role]⟩, ih⟩
  | @takes _ _ id _ source role rest ih =>
    rw [List.forall_mem_cons]
    refine ⟨⟨?_, by simp [role]⟩, ih⟩
    intro other same
    rw [role, Role.pattern.injEq] at same
    exact rest.found_subset (by simp [same])
  | again role met rest ih =>
    rw [List.forall_mem_cons]
    exact ⟨⟨by simp [role], fun _ _ => rest.containers_subset met⟩, ih⟩
  | opens role _ within rest _ ih =>
    rw [List.forall_mem_cons]
    refine ⟨⟨by simp [role], fun _ _ => ?_⟩, ih⟩
    exact rest.containers_subset (within.containers_subset List.mem_cons_self)

/-- A container that the walk opens is gone through to the end. -/
theorem Visits.met_of_includes (visits : table.Visits gathering ids last) :
    ∀ id ∈ last.containers, id ∈ gathering.containers ∨
      ∀ ref, table.Includes id ref → table.Met last ref := by
  induction visits with
  | nil =>
    intro id met
    exact .inl met
  | passes _ _ ih => exact ih
  | takes _ _ ih => exact ih
  | again _ _ _ ih => exact ih
  | opens role _ within rest inner outer =>
    intro other met
    rcases outer other met with before | through
    · rcases inner other before with before | through
      · rcases List.mem_cons.mp before with same | before
        · -- The container itself: all its rules were visited in the walk within.
          refine .inr fun ref includes => ?_
          obtain ⟨listed, also, member⟩ := includes
          rw [same, role, Role.container.injEq] at also
          rw [← also] at member
          exact (within.met ref member).after rest
        · exact .inl before
      · exact .inr fun ref includes => (through ref includes).after rest
    · exact .inr through

/-- The walk finds nothing but patterns of rules that can be reached. -/
theorem Visits.reaches_of_found (visits : table.Visits gathering ids last) :
    ∀ entry ∈ last.found, entry ∈ gathering.found ∨
      table.role entry.1 = .pattern entry.2 ∧ table.Reaches ids entry.1 := by
  induction visits with
  | nil =>
    intro entry member
    exact .inl member
  | passes _ _ ih | again _ _ _ ih =>
    intro entry member
    exact (ih entry member).imp_right fun found => ⟨found.1, found.2.cons⟩
  | takes role _ ih =>
    intro entry member
    rcases ih entry member with before | ⟨also, reaches⟩
    · rcases List.mem_append.mp before with before | new
      · exact .inl before
      · rw [List.mem_singleton.mp new]
        exact .inr ⟨role, reaches_cons_self⟩
    · exact .inr ⟨also, reaches.cons⟩
  | opens role _ _ _ inner outer =>
    intro entry member
    rcases outer entry member with before | ⟨also, reaches⟩
    · exact (inner entry before).imp_right fun found => ⟨found.1, found.2.within role⟩
    · exact .inr ⟨also, reaches.cons⟩

/-- The walk opens no container but those that can be reached. -/
theorem Visits.reaches_of_opened (visits : table.Visits gathering ids last) :
    ∀ id ∈ last.containers, id ∈ gathering.containers ∨ table.Reaches ids id := by
  induction visits with
  | nil =>
    intro id met
    exact .inl met
  | passes _ _ ih | takes _ _ ih | again _ _ _ ih =>
    intro other met
    exact (ih other met).imp_right Reaches.cons
  | opens role _ _ _ inner outer =>
    intro other met
    rcases outer other met with before | reaches
    · rcases inner other before with before | reaches
      · rcases List.mem_cons.mp before with rfl | before
        · exact .inr reaches_cons_self
        · exact .inl before
      · exact .inr (reaches.within role)
    · exact .inr reaches.cons

/-- All that can be reached from the rules inside a rule is met, although the rule itself counts
as met from the beginning. -/
theorem Visits.met_of_reaches
    (visits : table.Visits { containers := [id] } (table.inside id) last)
    (reaches : table.Reaches (table.inside id) ref) : table.Met last ref := by
  obtain ⟨first, listed, reaches⟩ := reaches
  induction reaches with
  | refl => exact visits.met first listed
  | @tail outer ref reaches includes ih =>
    obtain ⟨rules, role, member⟩ := includes
    rcases visits.met_of_includes outer (ih.opened rules role) with start | through
    · -- The walk is back at the rule that it began in, all of whose rules it has visited.
      rw [List.mem_singleton.mp start] at role
      rw [← inside_of_role role] at member
      exact visits.met ref member
    · exact through ref ⟨rules, role, member⟩

/-- What takes part in a search inside a rule are the patterns that can be reached. -/
theorem mem_taking_iff (multiple : ∀ rule, table.rule? id = some rule → rule.isSingle = false)
    (source : Source) : (ref, source) ∈ table.taking id ↔
      table.role ref = .pattern source ∧ table.Reaches (table.inside id) ref := by
  obtain ⟨last, visits, taken⟩ := exists_visits_taking multiple
  rw [taken]
  constructor
  · intro member
    simpa using visits.reaches_of_found (ref, source) member
  · intro found
    exact (visits.met_of_reaches found.2).found source found.1

/-! ## Expansions -/

/-- `Expands table ids list` says that `list` holds the patterns of the rules `ids` in their order,
where each container is replaced by the patterns of its rules whenever it is met. -/
inductive Expands (table : RuleTable) : List RuleId → List (RuleId × Source) → Prop where
  | nil : Expands table [] []
  | passes {id : RuleId} {ids : List RuleId} {list : List (RuleId × Source)}
      (role : table.role id = .nothing) (rest : Expands table ids list) :
      Expands table (id :: ids) list
  | takes {id : RuleId} {ids : List RuleId} {source : Source} {list : List (RuleId × Source)}
      (role : table.role id = .pattern source) (rest : Expands table ids list) :
      Expands table (id :: ids) ((id, source) :: list)
  | opens {id : RuleId} {ids rules : List RuleId} {inner outer : List (RuleId × Source)}
      (role : table.role id = .container rules) (within : Expands table rules inner)
      (rest : Expands table ids outer) : Expands table (id :: ids) (inner ++ outer)

theorem Expands.reaches {list : List (RuleId × Source)} (expands : table.Expands ids list) :
    ∀ entry ∈ list, table.role entry.1 = .pattern entry.2 ∧ table.Reaches ids entry.1 := by
  induction expands with
  | nil => simp
  | passes _ _ ih =>
    intro entry member
    exact (ih entry member).imp_right Reaches.cons
  | takes role _ ih =>
    rw [List.forall_mem_cons]
    refine ⟨⟨role, reaches_cons_self⟩, ?_⟩
    intro entry member
    exact (ih entry member).imp_right Reaches.cons
  | opens role _ _ within rest =>
    intro entry member
    rcases List.mem_append.mp member with member | member
    · exact (within entry member).imp_right (Reaches.within · role)
    · exact (rest entry member).imp_right Reaches.cons

/-- No container that can be reached from the rules `ids` can be reached from itself. -/
def Acyclic (table : RuleTable) (ids : List RuleId) : Prop :=
  ∀ id, table.Reaches ids id → ¬ TransGen table.Includes id id

theorem Acyclic.of_cons (acyclic : table.Acyclic (id :: ids)) : table.Acyclic ids := by
  intro other reaches
  exact acyclic other reaches.cons

theorem Acyclic.within (acyclic : table.Acyclic (id :: ids))
    (role : table.role id = .container rules) : table.Acyclic rules := by
  intro other reaches
  exact acyclic other (reaches.within role)

/-- Without cycles there is an expansion. `path` holds the containers around the rules. -/
theorem exists_expands_of_around {depth : Nat} {path : List RuleId} (ids : List RuleId)
    (acyclic : table.Acyclic ids) (enough : unmet table.size path < depth)
    (around : ∀ outer ∈ path, ∀ id ∈ ids, TransGen table.Includes outer id) :
    ∃ list, table.Expands ids list := by
  induction depth generalizing path ids with
  | zero => exact absurd enough (Nat.not_lt_zero _)
  | succ depth ih =>
    induction ids with
    | nil => exact ⟨[], .nil⟩
    | cons id ids rest =>
      obtain ⟨list, expands⟩ := rest acyclic.of_cons fun outer member id listed =>
        around outer member id (List.mem_cons_of_mem _ listed)
      cases role : table.role id with
      | nothing => exact ⟨list, .passes role expands⟩
      | pattern source => exact ⟨_, .takes role expands⟩
      | container rules =>
        have fresh : id ∉ path := fun member =>
          acyclic id reaches_cons_self (around id member id List.mem_cons_self)
        have fewer := unmet_cons_lt (le_size_of_role role) fresh
        have deeper : ∀ outer ∈ id :: path, ∀ ref ∈ rules, TransGen table.Includes outer ref := by
          intro outer member ref listed
          rcases List.mem_cons.mp member with rfl | member
          · exact .single ⟨rules, role, listed⟩
          · exact .tail (around outer member id List.mem_cons_self) ⟨rules, role, listed⟩
        obtain ⟨inner, within⟩ := ih rules (acyclic.within role) (by omega) deeper
        exact ⟨inner ++ list, .opens role within expands⟩

theorem Acyclic.exists_expands (acyclic : table.Acyclic ids) : ∃ list, table.Expands ids list :=
  exists_expands_of_around ids acyclic (Nat.lt_succ_self (unmet table.size [])) (by simp)

end RuleTable

/-! ## The order of precedence -/

/-- Keeps the first entry of each number. -/
def earliest {α : Type} : List (RuleId × α) → List (RuleId × α)
  | [] => []
  | entry :: others => entry :: (earliest others).filter fun other => other.1 ≠ entry.1

section Earliest

variable {α β : Type} {first second : List (RuleId × α)}

theorem mem_map_earliest {entries : List (RuleId × α)} {id : RuleId} :
    id ∈ (earliest entries).map Prod.fst ↔ id ∈ entries.map Prod.fst := by
  induction entries with
  | nil => rfl
  | cons entry entries ih =>
    by_cases same : id = entry.1
    · simp [earliest, same]
    · simp only [List.mem_map, earliest, List.mem_cons, List.mem_filter] at ih ⊢
      grind

theorem earliest_append (first second : List (RuleId × α)) :
    earliest (first ++ second) =
      earliest first ++ (earliest second).filter fun entry => entry.1 ∉ first.map Prod.fst := by
  induction first with
  | nil => simp [earliest]
  | cons entry first ih =>
    simp only [List.cons_append, earliest, ih, List.filter_append, List.filter_filter]
    congr 2
    apply List.filter_congr
    intro other _
    by_cases same : other.1 = entry.1 <;> simp [same]

/-- Entries whose numbers came before are not kept. -/
theorem earliest_append_eq_left (known : ∀ entry ∈ second, entry.1 ∈ first.map Prod.fst) :
    earliest (first ++ second) = earliest first := by
  have none : (earliest second).filter (fun entry => entry.1 ∉ first.map Prod.fst) = [] := by
    rw [List.filter_eq_nil_iff]
    intro entry member
    have listed : entry.1 ∈ second.map Prod.fst :=
      mem_map_earliest.mp (List.mem_map_of_mem member)
    obtain ⟨other, member, same⟩ := List.mem_map.mp listed
    simpa [← same] using known other member
  rw [earliest_append, none, List.append_nil]

theorem earliest_append_congr (same : earliest first = earliest second)
    (third : List (RuleId × α)) : earliest (first ++ third) = earliest (second ++ third) := by
  have numbers (id : RuleId) : id ∈ first.map Prod.fst ↔ id ∈ second.map Prod.fst := by
    rw [← mem_map_earliest, same, mem_map_earliest]
  simp only [earliest_append, same, numbers]

theorem earliest_map (change : α → β) (entries : List (RuleId × α)) :
    earliest (entries.map fun entry => (entry.1, change entry.2)) =
      (earliest entries).map fun entry => (entry.1, change entry.2) := by
  induction entries with
  | nil => rfl
  | cons entry entries ih => simp [earliest, ih, List.filter_map, Function.comp_def]

/-- Of the numbers that pass a test, the one that comes first stays the first. -/
theorem find?_earliest (entries : List (RuleId × α)) (wins : RuleId → Bool) :
    (earliest entries).find? (fun entry => wins entry.1) =
      entries.find? (fun entry => wins entry.1) := by
  induction entries with
  | nil => rfl
  | cons entry entries ih =>
    rw [earliest, List.find?_cons, List.find?_cons]
    cases won : wins entry.1 with
    | true => rfl
    | false =>
      rw [← ih]
      dsimp only
      rw [List.find?_filter]
      congr 1
      funext other
      by_cases same : other.1 = entry.1 <;> simp [same, won]

end Earliest

namespace RuleTable

variable {table : RuleTable} {gathering middle last : Gathering} {id ref : RuleId}
variable {ids rules : List RuleId} {list : List (RuleId × Source)}

/-- All that can be reached through a container has been met. -/
def Settled (table : RuleTable) (gathering : Gathering) (id : RuleId) : Prop :=
  ∀ ref, ReflTransGen table.Includes id ref → table.Met gathering ref

theorem Settled.mono (settled : table.Settled gathering id)
    (found : gathering.found ⊆ last.found) (containers : gathering.containers ⊆ last.containers) :
    table.Settled last id := by
  intro ref reaches
  exact (settled ref reaches).mono found containers

/-- Where the rules `ids` lead to containers that were met before, these are settled. -/
def Ready (table : RuleTable) (gathering : Gathering) (ids : List RuleId) : Prop :=
  ∀ id ∈ gathering.containers, ∀ rules, table.role id = .container rules →
    table.Reaches ids id → table.Settled gathering id

theorem Ready.of_cons (ready : table.Ready gathering (id :: ids)) : table.Ready gathering ids := by
  intro other met rules role reaches
  exact ready other met rules role reaches.cons

/-- After the walk all that can be reached from its rules has been met. -/
theorem Visits.settled (visits : table.Visits gathering ids last)
    (ready : table.Ready gathering ids) : ∀ id ∈ ids, table.Settled last id := by
  intro id member ref reaches
  induction reaches with
  | refl => exact visits.met id member
  | @tail outer ref reaches includes ih =>
    obtain ⟨rules, role, listed⟩ := includes
    rcases visits.met_of_includes outer (ih.opened rules role) with before | through
    · have settled := ready outer before rules role ⟨id, member, reaches⟩
      exact (settled ref (.single ⟨rules, role, listed⟩)).after visits
    · exact through ref ⟨rules, role, listed⟩

/-- The containers that were met are ready for the walk inside another one, since that one cannot
be reached from its own rules. -/
theorem Ready.within (ready : table.Ready gathering (id :: ids))
    (acyclic : table.Acyclic (id :: ids)) (role : table.role id = .container rules) :
    table.Ready { gathering with containers := id :: gathering.containers } rules := by
  intro other met listed also reaches
  rcases List.mem_cons.mp met with rfl | met
  · obtain ⟨first, member, reaches⟩ := reaches
    exact absurd (.head' ⟨rules, role, member⟩ reaches) (acyclic other reaches_cons_self)
  · have settled := ready other met listed also (reaches.within role)
    exact settled.mono (List.Subset.refl _) (List.subset_cons_self _ _)

/-- After the walk inside a container all the containers that were met are ready for the rest. -/
theorem Ready.after (ready : table.Ready gathering (id :: ids))
    (acyclic : table.Acyclic (id :: ids)) (role : table.role id = .container rules)
    (within : table.Visits { gathering with containers := id :: gathering.containers } rules
      middle) : table.Ready middle ids := by
  have settled := within.settled (ready.within acyclic role)
  intro other met listed also reaches
  rcases within.reaches_of_opened other met with before | ⟨first, member, inner⟩
  · rcases List.mem_cons.mp before with rfl | before
    · intro ref further
      rcases further.cases_head with rfl | ⟨first, ⟨others, same, member⟩, further⟩
      · exact ⟨by simp [role], fun _ _ => met⟩
      · rw [role, Role.container.injEq] at same
        rw [← same] at member
        exact settled first member ref further
    · have old := ready other before listed also reaches.cons
      exact old.mono within.found_subset
        (List.Subset.trans (List.subset_cons_self _ _) within.containers_subset)
  · intro ref further
    exact settled first member ref (inner.trans further)

/-- Without cycles the walk finds the same patterns first as the expansion has. -/
theorem Expands.earliest_found (expands : table.Expands ids list)
    (visits : table.Visits gathering ids last) (acyclic : table.Acyclic ids)
    (ready : table.Ready gathering ids) :
    earliest last.found = earliest (gathering.found ++ list) := by
  induction expands generalizing gathering last with
  | nil =>
    cases visits
    simp
  | passes role _ ih =>
    cases visits with
    | passes _ rest => exact ih rest acyclic.of_cons ready.of_cons
    | takes other => simp [role] at other
    | again other => simp [role] at other
    | opens other => simp [role] at other
  | @takes id ids source list role _ ih =>
    cases visits with
    | passes other => simp [role] at other
    | takes other rest =>
      rw [role, Role.pattern.injEq] at other
      subst other
      have ready : table.Ready { gathering with found := gathering.found ++ [(id, source)] } ids := by
        intro other met rules role reaches
        exact (ready.of_cons other met rules role reaches).mono
          (List.subset_append_left _ _) (List.Subset.refl _)
      rw [ih rest acyclic.of_cons ready, List.append_assoc, List.singleton_append]
    | again other => simp [role] at other
    | opens other => simp [role] at other
  | @opens id ids rules inner outer role expansion _ inside ih =>
    cases visits with
    | passes other => simp [role] at other
    | takes other => simp [role] at other
    | again other met rest =>
      -- All that the container stands for was found when it was opened.
      have settled := ready id met rules role reaches_cons_self
      have known : ∀ entry ∈ inner, entry.1 ∈ gathering.found.map Prod.fst := by
        intro entry member
        obtain ⟨also, first, listed, reaches⟩ := expansion.reaches entry member
        have met := settled entry.1 (.head ⟨rules, role, listed⟩ reaches)
        exact List.mem_map_of_mem (f := Prod.fst) (met.found entry.2 also)
      rw [ih rest acyclic.of_cons ready.of_cons, ← List.append_assoc]
      exact earliest_append_congr (earliest_append_eq_left known).symm outer
    | opens other fresh within rest =>
      rw [role, Role.container.injEq] at other
      subst other
      have first := inside within (acyclic.within role) (ready.within acyclic role)
      have second := ih rest acyclic.of_cons (ready.after acyclic role within)
      rw [second, ← List.append_assoc]
      exact earliest_append_congr first outer

/-- The rule that a search begins in counts as met, and without cycles it is not met again. -/
theorem Acyclic.ready (acyclic : table.Acyclic (table.inside id)) :
    table.Ready { containers := [id] } (table.inside id) := by
  intro other met rules role reaches
  obtain rfl := List.mem_singleton.mp met
  obtain ⟨first, listed, further⟩ := reaches
  have includes : table.Includes other first := ⟨rules, role, inside_of_role role ▸ listed⟩
  exact absurd (.head' includes further) (acyclic other ⟨first, listed, further⟩)

/-- The patterns of a search inside a rule that matches once are its own. Inside any other rule the
walk through containers ends, and lists just the patterns of the rules that can be reached from the
rules inside, each resolved for the anchors. If no container can be reached from itself, the first
entries of the rules come in the order in which a full expansion lists them, so that of the rules
that pass any test the same one goes first. -/
theorem candidates_flatten (table : RuleTable) (id : RuleId) (anchors : Anchors) :
    (∀ rule matching, table.rule? id = some rule → rule.kind = .single matching →
      table.candidates id anchors = [(id, matching.pattern.resolveAnchors anchors)]) ∧
    ((∀ rule matching, table.rule? id = some rule → rule.kind ≠ .single matching) →
      (∃ last, table.Visits { containers := [id] } (table.inside id) last ∧
        table.candidates id anchors =
          last.found.map fun entry => (entry.1, entry.2.resolveAnchors anchors)) ∧
      (∀ ref text, (ref, text) ∈ table.candidates id anchors ↔
        table.Reaches (table.inside id) ref ∧
          ∃ source, table.role ref = .pattern source ∧ text = source.resolveAnchors anchors) ∧
      (table.Acyclic (table.inside id) →
        (∃ full, table.Expands (table.inside id) full) ∧
        ∀ full, table.Expands (table.inside id) full →
          let expansion := full.map fun entry => (entry.1, entry.2.resolveAnchors anchors)
          earliest (table.candidates id anchors) = earliest expansion ∧
          ∀ wins : RuleId → Bool,
            (table.candidates id anchors).find? (fun entry => wins entry.1) =
              expansion.find? (fun entry => wins entry.1))) := by
  constructor
  · intro rule matching found kind
    simp [candidates, taking, found, kind]
  · intro several
    have multiple : ∀ rule, table.rule? id = some rule → rule.isSingle = false := by
      intro rule found
      have several := several rule
      obtain ⟨number, name, kind⟩ := rule
      cases kind <;> simp_all [Rule.isSingle]
    obtain ⟨last, visits, taken⟩ := exists_visits_taking multiple
    have listed : table.candidates id anchors =
        last.found.map fun entry => (entry.1, entry.2.resolveAnchors anchors) := by
      rw [candidates, taken]
    refine ⟨⟨last, visits, listed⟩, ?_, ?_⟩
    · intro ref text
      rw [listed, ← taken]
      simp only [List.mem_map, Prod.exists, Prod.mk.injEq, mem_taking_iff multiple]
      grind
    · intro acyclic
      refine ⟨acyclic.exists_expands, ?_⟩
      intro full expands expansion
      have same : earliest last.found = earliest full :=
        expands.earliest_found visits acyclic acyclic.ready
      have order : earliest (table.candidates id anchors) = earliest expansion := by
        have resolved := earliest_map fun source : Source => source.resolveAnchors anchors
        rw [listed, resolved, same, ← resolved]
      refine ⟨order, fun wins => ?_⟩
      rw [← find?_earliest, order, find?_earliest]

/-- A rule that lists two containers, which list the same rules in different orders. The second of
these is a region that may contain itself. -/
def shared : RuleTable where
  slots := #[
    some ⟨1, none, .container none { patterns := [2, 3] }⟩,
    some ⟨2, none, .container none { patterns := [4, 5] }⟩,
    some ⟨3, none, .container none { patterns := [5, 4] }⟩,
    some ⟨4, none, .single ⟨.ofText "a", []⟩⟩,
    some ⟨5, none, .region none ⟨.ofText "b", []⟩ ⟨.ofText "c", []⟩ false { patterns := [5] }⟩]

theorem candidates_flatten_shared : shared.Acyclic (shared.inside 1) ∧
    ∃ full, shared.Expands (shared.inside 1) full ∧ full.map Prod.fst = [4, 5, 5, 4] ∧
      earliest (shared.candidates 1 .both) =
        earliest (full.map fun entry => (entry.1, entry.2.resolveAnchors .both)) := by
  -- Containers only list rules that come after them in the table.
  have later : ∀ id ref, shared.Includes id ref → id < ref := by
    intro id ref includes
    obtain ⟨rules, role, member⟩ := includes
    have le : id ≤ 5 := le_size_of_role role
    have lists : ∀ id ≤ 5, ∀ ref ∈ shared.inside id, id = 5 ∨ id < ref := by decide
    rw [← inside_of_role role] at member
    rcases lists id le ref member with rfl | later
    · cases role
    · exact later
  have acyclic : shared.Acyclic (shared.inside 1) := by
    intro id _ cycle
    have below {first last : RuleId} (path : TransGen shared.Includes first last) :
        first < last := by
      induction path with
      | single includes => exact later _ _ includes
      | tail _ includes ih => exact ih.trans (later _ _ includes)
    exact Nat.lt_irrefl id (below cycle)
  have expands : shared.Expands (shared.inside 1)
      ([(4, .ofText "a"), (5, .ofText "b")] ++ ([(5, .ofText "b"), (4, .ofText "a")] ++ [])) :=
    .opens rfl (.takes rfl (.takes rfl .nil)) (.opens rfl (.takes rfl (.takes rfl .nil)) .nil)
  refine ⟨acyclic, _, expands, rfl, ?_⟩
  have several : ∀ rule matching, shared.rule? 1 = some rule → rule.kind ≠ .single matching := by
    intro rule matching found
    cases found
    simp
  exact (((candidates_flatten shared 1 .both).2 several).2.2 acyclic).2 _ expands |>.1

end RuleTable

end ScopeTokenizer.Grammar
