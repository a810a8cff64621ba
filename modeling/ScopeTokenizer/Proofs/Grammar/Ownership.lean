import ScopeTokenizer.Proofs.Grammar.Underway

/-!
# Captures and the rules that own them

The text of a capture may be read again by the rule of the capture, whose number the compiled rule
then refers to. A number alone is not enough: its place may have been left empty by an error. But a
capture is written in a rule that owns it, and nothing else leads there. So it is compiled only in
the course of its owner, which happens once, and between the two numbers no place is left empty
until the owner's rule is complete.
-/

namespace ScopeTokenizer.Grammar

open Pattern Scope Text

/-! ## Owners -/

/-- The place of the rule that a capture is written in. -/
def Site.owner? (site : Site) : Option Site :=
  match site.path with
  | .capture _ _ :: path => some { site with path }
  | _ => none

/-- The rule by which the text of a capture is read again. -/
def Rule.again? (rule : Rule) : Option RuleId :=
  match rule.kind with
  | .capture _ inner => inner
  | _ => none

/-- All entries of a repository are rules that nothing owns. -/
def Repository.Free (repository : Repository) : Prop :=
  ∀ name node, repository.find? name = some node → node.site.owner? = none

/-- So are all rules to which a grammar leads by name or by a selector. -/
structure LinkedGrammar.Free (grammar : LinkedGrammar) : Prop where
  repository : Repository.Free grammar.repository
  injections : ∀ entry ∈ grammar.injections, entry.2.site.owner? = none

theorem Repository.Free.insert {repository : Repository} (free : repository.Free) (name : String)
    {node : Node} (unowned : node.site.owner? = none) :
    Repository.Free (Keyed.insert name node repository) := by
  intro other target found
  rw [Keyed.find?_insert] at found
  split at found
  · cases found
    exact unowned
  · exact free other target found

theorem LinkedGrammar.free_ofDef (grammar : GrammarDef) {base : Option Node}
    (unowned : ∀ node ∈ base, node.site.owner? = none) : (ofDef grammar base).Free := by
  have entries :
      Repository.Free (namedNodes ⟨grammar.scopeName, []⟩ .entry grammar.repository) := by
    intro name node found
    rw [find?_namedNodes] at found
    obtain ⟨rule, -, rfl⟩ := Option.map_eq_some_iff.mp found
    rfl
  constructor
  · refine (entries.insert _ rfl).insert _ ?_
    cases base with
    | none => rfl
    | some node => exact unowned node rfl
  · intro entry mem
    obtain ⟨injection, -, rfl⟩ := List.mem_map.mp mem
    rfl

namespace Node

variable {node inner : Node}

theorem free_extend {repository : Repository} (free : repository.Free) :
    (node.extend repository).Free := by
  unfold extend
  split
  · exact free
  · refine List.foldlRecOn _ _ (motive := Repository.Free) free fun repository free entry mem => ?_
    obtain ⟨written, -, rfl⟩ := List.mem_map.mp mem
    exact free.insert _ rfl

theorem owner?_of_mem_patterns (mem : inner ∈ node.patterns) : inner.site.owner? = none := by
  obtain ⟨entry, -, rfl⟩ := List.mem_map.mp mem
  rfl

theorem owner?_of_mem_capturesOf {field : CaptureField} {entries : List (String × RuleDef)}
    {entry : String × Node} (mem : entry ∈ node.capturesOf field entries) :
    entry.2.site.owner? = some node.site := by
  obtain ⟨written, -, rfl⟩ := List.mem_map.mp mem
  rfl

theorem owner?_of_mem_capturesOr {field : CaptureField} {entries : List (String × RuleDef)}
    {entry : String × Node} (mem : entry ∈ node.capturesOr field entries) :
    entry.2.site.owner? = some node.site := by
  unfold capturesOr at mem
  split at mem
  · exact owner?_of_mem_capturesOf mem
  · exact owner?_of_mem_capturesOf mem

end Node

namespace RuleTable

/-- The rule with a number is there. -/
def Has (table : RuleTable) (id : RuleId) : Prop := ∃ rule, table.rule? id = some rule

variable {before after : RuleTable} {id : RuleId}

theorem Has.mono (has : before.Has id) (grows : before.Grows after) : after.Has id := by
  obtain ⟨rule, found⟩ := has
  exact ⟨rule, (grows.kept id (le_size_of_rule? found)).trans found⟩

theorem Has.put (has : before.Has id) {rule : Rule} (positive : 0 < rule.id)
    (le : rule.id ≤ before.size) : (before.put rule).Has id := by
  by_cases own : id = rule.id
  · exact ⟨rule, own ▸ before.rule?_put_self positive le⟩
  · obtain ⟨other, found⟩ := has
    exact ⟨other, (before.rule?_put_of_ne own positive).trans found⟩

/-- The rules by which captures are read again are there. -/
def Rereads (table : RuleTable) (rule : Rule) : Prop :=
  ∀ inner, rule.again? = some inner → table.Has inner

end RuleTable

namespace Compilation

variable {before after compilation : Compilation} {site : Site}

/-! ## Being orderly -/

/-- The rule of a place is being compiled, or is compiled. All numbers that were taken after that of
the place have rules. -/
def Underway (compilation : Compilation) (site : Site) : Prop :=
  ∃ first, compilation.number? site = some first ∧
    ∀ id, first < id → id ≤ compilation.table.size → compilation.table.Has id

/-- The rule of a place may be compiled now: the place has no owner, or that is being compiled. -/
def Admissible (compilation : Compilation) (site : Site) : Prop :=
  ∀ owner, site.owner? = some owner → compilation.Underway owner

theorem Underway.mono (underway : before.Underway site) (extended : before.Extends after) :
    after.Underway site := by
  obtain ⟨first, number, filled⟩ := underway
  refine ⟨first, extended.number? number, fun id above le => ?_⟩
  by_cases early : id ≤ before.table.size
  · exact (filled id above early).mono extended.table
  · exact extended.filled id (Nat.lt_of_not_le early) le

/-- Captures have greater numbers than their owners, and are read again by rules that are there.
Nothing else leads to a capture than its owner. -/
structure Orderly (compilation : Compilation) : Prop where
  range : ∀ {site id}, compilation.number? site = some id → id ≤ compilation.table.size
  owned : ∀ {site owner id}, site.owner? = some owner → compilation.number? site = some id →
    ∃ first, compilation.number? owner = some first ∧ first < id
  rereads : ∀ {id rule}, compilation.table.rule? id = some rule → compilation.table.Rereads rule
  host : compilation.host.Free
  included : ∀ {scope grammar}, compilation.included.find? scope = some grammar → grammar.Free

namespace Orderly

theorem start (grammar : GrammarDef) : (start grammar).Orderly where
  range := nofun
  owned := fun _ => nofun
  rereads := fun {id _} found => by
    cases id with
    | zero => cases found
    | succ index => cases found
  host := LinkedGrammar.free_ofDef grammar nofun
  included := nofun

theorem reserve (orderly : compilation.Orderly) : compilation.reserve.Orderly where
  range := fun number =>
    Nat.le_trans (orderly.range number) compilation.table.grows_reserve.size_le
  owned := orderly.owned
  rereads := fun found inner again => by
    rw [Compilation.reserve, RuleTable.rule?_reserve] at found
    exact (orderly.rereads found inner again).mono compilation.table.grows_reserve
  host := orderly.host
  included := orderly.included

theorem openAt (orderly : compilation.Orderly) (fresh : compilation.number? site = none)
    (admissible : compilation.Admissible site) : (compilation.openAt site).Orderly where
  range := fun {other id} number => by
    rw [number?_openAt] at number
    split at number
    · cases number
      exact compilation.size_reserve_le
    · exact orderly.reserve.range number
  owned := fun {other owner id} owns number => by
    rw [number?_openAt] at number
    split at number
    · next is =>
      obtain ⟨first, number', -⟩ := admissible owner (is ▸ owns)
      cases number
      have early := orderly.range number'
      exact ⟨first, number?_openAt_of_fresh fresh number', Nat.lt_succ_of_le early⟩
    · obtain ⟨first, number', below⟩ := orderly.owned owns number
      exact ⟨first, number?_openAt_of_fresh fresh number', below⟩
  rereads := orderly.reserve.rereads
  host := orderly.host
  included := orderly.included

theorem put (orderly : compilation.Orderly) {rule : Rule} (positive : 0 < rule.id)
    (le : rule.id ≤ compilation.table.size) (rereads : compilation.table.Rereads rule) :
    (compilation.put rule).Orderly where
  range := fun number => by
    rw [Compilation.put, RuleTable.size_put]
    exact orderly.range number
  owned := orderly.owned
  rereads := fun {id other} found inner again => by
    refine RuleTable.Has.put ?_ positive le
    by_cases own : id = rule.id
    · subst own
      rw [Compilation.put, compilation.table.rule?_put_self positive le] at found
      cases found
      exact rereads inner again
    · rw [Compilation.put, compilation.table.rule?_put_of_ne own positive] at found
      exact orderly.rereads found inner again
  host := orderly.host
  included := orderly.included

end Orderly

/-- A place that has just got its number is followed by no other. -/
theorem underway_openAt (compilation : Compilation) (site : Site) :
    (compilation.openAt site).Underway site := by
  refine ⟨compilation.table.size + 1, ?_, fun id above le => ?_⟩
  · rw [number?_openAt, if_pos rfl]
  · have size : (compilation.openAt site).table.size = compilation.table.size + 1 :=
      RuleTable.size_reserve _
    rw [size] at le
    exact absurd (Nat.lt_of_lt_of_le above le) (Nat.lt_irrefl _)

end Compilation

namespace Compile

open Compilation

variable {α β : Type} {library : Library} {before : Compilation}

/-! ## Staying orderly -/

/-- Compiling keeps a compilation orderly, also when it ends in an error. If there is an answer, no
new number is left without a rule, and `post` holds of the answer. -/
def Orders (library : Library) (before : Compilation) (compile : Compile α)
    (post : α → Compilation → Prop) : Prop :=
  ∀ answer after, before.run library compile = (answer, after) →
    after.Orderly ∧ ∀ a, answer = .ok a → before.Extends after ∧ post a after

namespace Orders

variable {post wanted : α → Compilation → Prop} {compile : Compile α}

theorem of_run {a : α} {after : Compilation}
    (run : before.run library compile = (.ok a, after)) (orderly : after.Orderly)
    (extended : before.Extends after) (given : post a after) :
    Orders library before compile post := by
  intro answer after' run'
  cases run.symm.trans run'
  refine ⟨orderly, ?_⟩
  rintro _ ⟨⟩
  exact ⟨extended, given⟩

theorem pure (orderly : before.Orderly) {a : α} (given : post a before) :
    Orders library before (Pure.pure a) post :=
  of_run rfl orderly (.refl _) given

theorem throw (orderly : before.Orderly) (error : GrammarError) :
    Orders library before (throw error : Compile α) post := by
  rintro _ _ ⟨⟩
  exact ⟨orderly, nofun⟩

theorem bind {first : Compile α} {next : α → Compile β} {last : β → Compilation → Prop}
    (start : Orders library before first post)
    (rest : ∀ a middle, middle.Orderly → before.Extends middle → post a middle →
      Orders library middle (next a) last) :
    Orders library before (first >>= next) last := by
  intro answer after run
  rw [run_bind] at run
  split at run
  · next a middle run' =>
    obtain ⟨orderly, given⟩ := start _ middle run'
    obtain ⟨extended, given⟩ := given a rfl
    obtain ⟨orderly', last⟩ := rest a middle orderly extended given answer after run
    refine ⟨orderly', fun b is => ?_⟩
    obtain ⟨extended', last⟩ := last b is
    exact ⟨extended.trans extended', last⟩
  · next error middle run' =>
    cases run
    exact ⟨(start _ _ run').1, nofun⟩

/-- Nothing may be known of the first answer. -/
theorem andThen {first : Compile α} {next : α → Compile β} {last : β → Compilation → Prop}
    (start : Orders library before first fun _ _ => True)
    (rest : ∀ a middle, middle.Orderly → before.Extends middle →
      Orders library middle (next a) last) :
    Orders library before (first >>= next) last :=
  start.bind fun a middle orderly extended _ => rest a middle orderly extended

theorem weaken (orders : Orders library before compile post)
    (post : ∀ a after, before.Extends after → post a after → wanted a after) :
    Orders library before compile wanted := by
  intro answer after run
  obtain ⟨orderly, given⟩ := orders answer after run
  refine ⟨orderly, fun a is => ?_⟩
  obtain ⟨extended, given⟩ := given a is
  exact ⟨extended, post a after extended given⟩

end Orders

/-! ## Grammars -/

/-- Looking up a grammar leads to no capture. -/
theorem orders_grammar? (orderly : before.Orderly) (scope : String) {base : Option Node}
    (unowned : ∀ node ∈ base, node.site.owner? = none) :
    Orders library before (grammar? scope base)
      fun answer _ => ∀ grammar ∈ answer, grammar.Free := by
  have state : Orders library before get fun state after => state = before ∧ after = before :=
    .of_run rfl orderly (.refl _) ⟨rfl, rfl⟩
  unfold grammar?
  apply state.bind
  rintro _ _ - - ⟨rfl, rfl⟩
  dsimp only
  split
  · next grammar known =>
    refine .pure orderly ?_
    rintro _ ⟨⟩
    exact orderly.included known
  · split
    · refine .pure orderly ?_
      rintro _ ⟨⟩
      exact orderly.host
    · have given : Orders library _ read fun _ after => after = _ :=
        .of_run rfl orderly (.refl _) rfl
      apply given.bind
      rintro library _ - - rfl
      split
      · exact .pure orderly nofun
      · next definition known =>
        have free := LinkedGrammar.free_ofDef definition unowned
        refine .of_run rfl ⟨orderly.range, orderly.owned, orderly.rereads, orderly.host, ?_⟩
          ⟨.refl _, id, (Extends.refl _).filled⟩ ?_
        · intro other grammar found
          rw [Keyed.find?_insert] at found
          split at found
          · cases found
            exact free
          · exact orderly.included found
        · rintro _ ⟨⟩
          exact free

/-! ## Registering -/

/-- A number is taken, and then gets a rule. -/
theorem orders_register {make : RuleId → Compile Rule}
    (makes : Orders library before.reserve (make (before.table.size + 1)) fun rule after =>
      rule.id = before.table.size + 1 ∧ after.table.Rereads rule) :
    Orders library before (register make) fun id after => after.table.Has id := by
  intro answer after run
  rw [run_register] at run
  split at run
  · next rule middle made =>
    cases run
    obtain ⟨orderly, given⟩ := makes _ middle made
    obtain ⟨extended, is, rereads⟩ := given rule rfl
    have positive : 0 < rule.id := is ▸ Nat.succ_pos _
    have le : rule.id ≤ middle.table.size :=
      is ▸ Nat.le_trans before.size_reserve_le extended.table.size_le
    refine ⟨orderly.put positive le rereads, ?_⟩
    rintro _ ⟨⟩
    refine ⟨extended.put before.table.grows_reserve (RuleTable.size_reserve _) id _ is, ?_⟩
    rw [← is]
    exact ⟨rule, middle.table.rule?_put_self positive le⟩
  · next error middle made =>
    cases run
    exact ⟨(makes _ _ made).1, nofun⟩

/-- What is made at a place that has an owner is there. -/
def Delivers (site : Site) (id : RuleId) (after : Compilation) : Prop :=
  site.owner? ≠ none → after.table.Has id

/-- A place that has a number already is compiled, or its rule has no owner. -/
theorem orders_registerAt (orderly : before.Orderly) {site : Site}
    (admissible : before.Admissible site) {make : RuleId → Compile Rule}
    (makes : before.number? site = none →
      Orders library (before.openAt site) (make (before.table.size + 1)) fun rule after =>
        rule.id = before.table.size + 1 ∧ after.table.Rereads rule) :
    Orders library before (registerAt site make) (Delivers site) := by
  have asks : Orders library before (Compile.number? site)
      fun answer after => answer = before.number? site ∧ after = before :=
    .of_run rfl orderly (.refl _) ⟨rfl, rfl⟩
  unfold registerAt
  apply asks.bind
  rintro answer middle - - ⟨rfl, rfl⟩
  cases known : middle.number? site with
  | some id =>
    refine .pure orderly fun owned => ?_
    obtain ⟨owner, owns⟩ := Option.ne_none_iff_exists'.mp owned
    obtain ⟨first, number, filled⟩ := admissible owner owns
    obtain ⟨first', number', below⟩ := orderly.owned owns known
    cases number.symm.trans number'
    -- The capture got its number in the course of its owner, since when no place is left empty.
    exact filled id below (orderly.range known)
  | none =>
    have opens : middle.reserve.Extends (middle.openAt site) :=
      ⟨.refl _, number?_openAt_of_fresh known, (Extends.refl middle.reserve).filled⟩
    have notes : Orders library middle.reserve
        (modify fun state => { state with
          numbers := (site, middle.table.size + 1) :: state.numbers })
        fun _ after => after = middle.openAt site :=
      .of_run rfl (orderly.openAt known admissible) opens rfl
    refine (orders_register (notes.bind ?_)).weaken fun id after _ has _ => has
    rintro _ _ - - rfl
    exact makes known

/-! ## Parts of rules -/

section Rules

/-- Whatever may be compiled now is compiled in order. -/
def Proceeds (library : Library) (compile : Surroundings → Node → Compile RuleId) : Prop :=
  ∀ before around node, before.Orderly → around.repository.Free → before.Admissible node.site →
    Orders library before (compile around node) (Delivers node.site)

variable {compile : Surroundings → Node → Compile RuleId} (proceeds : Proceeds library compile)
  {around : Surroundings} (orderly : before.Orderly) (free : around.repository.Free)

/-- A rule without an owner may be compiled at any time. -/
theorem admissible_of_free {node : Node} (unowned : node.site.owner? = none) :
    before.Admissible node.site := by
  intro owner owns
  cases unowned.symm.trans owns

include proceeds orderly

theorem orders_entry {surroundings : Surroundings} (free : surroundings.repository.Free)
    (text name : String) :
    Orders library before (entry compile around text surroundings name) fun _ _ => True := by
  unfold entry
  split
  · next target found =>
    exact (proceeds _ _ target orderly free (admissible_of_free (free name target found))).weaken
      fun _ _ _ _ => trivial
  · exact .throw orderly _

include free

theorem orders_entryOf (text scope name : String) :
    Orders library before (entryOf compile around text scope name) fun _ _ => True := by
  unfold entryOf
  apply (orders_grammar? orderly scope fun node is => free _ node is).bind
  intro answer middle orderly _ linked
  cases answer with
  | none => exact .throw orderly _
  | some grammar => exact orders_entry proceeds orderly (linked grammar rfl).repository text name

theorem orders_resolve (text : String) :
    Orders library before (resolve compile around text) fun _ _ => True := by
  unfold resolve
  split
  · exact orders_entry proceeds orderly free text _
  · exact orders_entry proceeds orderly free text _
  · exact orders_entry proceeds orderly free text _
  · exact orders_entryOf proceeds orderly free text _ _
  · exact orders_entryOf proceeds orderly free text _ _

/-- Includes may stand at any place, since only what they refer to is compiled. -/
theorem orders_inner {nodes : List Node}
    (unowned : ∀ node ∈ nodes, node.rule.includeName = none → node.site.owner? = none) :
    Orders library before (inner compile around nodes) fun _ _ => True := by
  have unlessHollow {before : Compilation} (orderly : before.Orderly) (id : RuleId) :
      Orders library before
        (do if (← rule? id).any Rule.isHollow then return none else return some id)
        fun _ _ => True := by
    have asks : Orders library before (rule? id) fun _ after => after = before :=
      .of_run rfl orderly (.refl _) rfl
    apply asks.bind
    rintro rule _ - - rfl
    split
    · exact .pure orderly trivial
    · exact .pure orderly trivial
  unfold inner
  refine Orders.andThen ?_ fun ids middle orderly _ => .pure orderly trivial
  induction nodes generalizing before with
  | nil => exact .pure orderly trivial
  | cons node nodes ih =>
    obtain ⟨first, others⟩ := List.forall_mem_cons.mp unowned
    rw [List.filterMapM_cons]
    refine Orders.andThen ?_ fun answer middle orderly _ => ?_
    · split
      · exact (orders_resolve proceeds orderly free _).andThen
          fun id middle orderly _ => unlessHollow orderly id
      · next own =>
        exact (proceeds _ _ node orderly free (admissible_of_free (first own))).bind
          fun id middle orderly _ _ => unlessHollow orderly id
    · cases answer with
      | none => exact ih orderly others
      | some id =>
        exact (ih orderly others).andThen fun ids middle orderly _ => .pure orderly trivial

theorem orders_containerInner (node : Node) :
    Orders library before (containerInner compile around node) fun _ _ => True := by
  have extended := node.free_extend free
  have patterns : Orders library before
      (inner compile { around with repository := node.extend around.repository } node.patterns)
      fun _ _ => True :=
    orders_inner proceeds orderly extended fun inner mem _ => Node.owner?_of_mem_patterns mem
  unfold containerInner
  dsimp only
  split
  · split
    · exact patterns
    · refine orders_inner proceeds orderly extended ?_
      intro inner mem own
      obtain rfl := List.mem_singleton.mp mem
      cases own
  · exact patterns

variable {owner : Site} (underway : before.Underway owner)

include underway

/-- A capture is compiled in the course of its owner, with the rule by which it is read again. -/
theorem orders_capture {node : Node} (owns : node.site.owner? = some owner) :
    Orders library before (capture compile around node) fun _ _ => True := by
  have makes {before : Compilation} (orderly : before.Orderly) (inner : Option RuleId)
      (there : ∀ id, inner = some id → before.table.Has id) :
      Orders library before
        (register fun id => return {
          id
          name := node.rule.name.map .ofText
          kind := .capture (node.rule.contentName.map .ofText) inner })
        fun _ _ => True := by
    refine (orders_register (.pure orderly.reserve ⟨rfl, fun id again => ?_⟩)).weaken
      fun _ _ _ _ => trivial
    exact (there id again).mono before.table.grows_reserve
  have admissible : before.Admissible node.site := by
    intro other owns'
    cases owns.symm.trans owns'
    exact underway
  unfold capture
  split
  · rw [map_eq_pure_bind, bind_assoc]
    apply (proceeds _ _ node orderly free admissible).bind
    intro id middle orderly _ delivers
    rw [pure_bind]
    refine makes orderly (some id) ?_
    rintro _ ⟨⟩
    exact delivers (by rw [owns]; exact nofun)
  · exact makes orderly none nofun

theorem orders_foldlM_captures {numbered : List (Nat × Node)} (rules : List (Option RuleId))
    (owns : ∀ entry ∈ numbered, entry.2.site.owner? = some owner) :
    Orders library before
      (numbered.foldlM (fun rules (group, node) => do
        return rules.set group (some (← capture compile around node))) rules)
      fun _ _ => True := by
  induction numbered generalizing before rules with
  | nil => exact .pure orderly trivial
  | cons entry numbered ih =>
    obtain ⟨first, others⟩ := List.forall_mem_cons.mp owns
    rw [List.foldlM_cons, bind_assoc]
    apply (orders_capture proceeds orderly free underway first).andThen
    intro id middle orderly extended
    rw [pure_bind]
    exact ih orderly (underway.mono extended) _ others

theorem orders_matching (pattern : String) {entries : List (String × Node)}
    (owns : ∀ entry ∈ entries, entry.2.site.owner? = some owner) :
    Orders library before (matching compile around pattern entries) fun _ _ => True := by
  have numbered : Orders library before (Compile.numbered around entries) fun made after =>
      after = before ∧ made = groups entries := by
    obtain ⟨answer, run, given⟩ := run_numbered before library around entries
    intro answer' after run'
    cases run.symm.trans run'
    exact ⟨orderly, fun made is => ⟨.refl _, rfl, given made is⟩⟩
  unfold matching captures
  refine Orders.andThen ?_ fun rules middle orderly _ => .pure orderly trivial
  apply numbered.bind
  rintro _ _ - - ⟨rfl, rfl⟩
  refine orders_foldlM_captures proceeds orderly free underway _ fun entry mem => ?_
  obtain ⟨written, among, rfl⟩ := List.mem_map.mp mem
  exact owns written (List.mem_filter.mp among).1

omit underway in
/-- A rule that is written in a grammar is none of a capture. -/
theorem orders_kind {node : Node} (underway : before.Underway node.site) :
    Orders library before (kind compile around node)
      fun kind _ => ∀ id name, Rule.again? ⟨id, name, kind⟩ = none := by
  have patterns {before : Compilation} (orderly : before.Orderly) :
      Orders library before (inner compile around node.patterns) fun _ _ => True :=
    orders_inner proceeds orderly free fun inner mem _ => Node.owner?_of_mem_patterns mem
  unfold kind
  dsimp only
  split
  · apply (orders_matching proceeds orderly free underway _
      fun entry => Node.owner?_of_mem_capturesOf).andThen
    intro made middle orderly _
    exact .pure orderly fun _ _ => rfl
  · apply (orders_containerInner proceeds orderly free node).andThen
    intro made middle orderly _
    exact .pure orderly fun _ _ => rfl
  · apply (orders_matching proceeds orderly free underway _
      fun entry => Node.owner?_of_mem_capturesOr).andThen
    intro opening middle orderly extended
    have underway := underway.mono extended
    split
    · apply (orders_matching proceeds orderly free underway _
        fun entry => Node.owner?_of_mem_capturesOr).andThen
      intro condition middle orderly _
      apply (patterns orderly).andThen
      intro made middle orderly _
      exact .pure orderly fun _ _ => rfl
    · apply (orders_matching proceeds orderly free underway _
        fun entry => Node.owner?_of_mem_capturesOr).andThen
      intro closing middle orderly _
      apply (patterns orderly).andThen
      intro made middle orderly _
      exact .pure orderly fun _ _ => rfl

end Rules

/-! ## Rules -/

/-- Rules are compiled in order, however deep they go. -/
theorem proceeds_rule (depth : Nat) : Proceeds library (rule depth) := by
  induction depth with
  | zero =>
    intro before around node orderly free admissible
    exact orders_registerAt orderly admissible fun fresh =>
      .throw (orderly.openAt fresh admissible) _
  | succ depth ih =>
    intro before around node orderly free admissible
    refine orders_registerAt orderly admissible fun fresh => ?_
    -- No number is greater than the one just taken, so the rule may own captures from now on.
    apply (orders_kind ih (orderly.openAt fresh admissible) free (underway_openAt _ _)).bind
    intro kind middle orderly _ plain
    refine .pure orderly ⟨rfl, fun inner again => ?_⟩
    cases (plain _ _).symm.trans again

end Compile

namespace Compilation

open Compile

variable {compilation : Compilation}

/-- A compilation that a grammar was compiled in is orderly, also if there was an error. -/
theorem orderly_compileRoot (grammar : GrammarDef) (library : Library) :
    ((start grammar).compileRoot library).2.Orderly := by
  have orderly := Orderly.start grammar
  have host : (start grammar).host.self? = some (LinkedGrammar.selfNode grammar) :=
    LinkedGrammar.self?_ofDef grammar none
  have orders : Orders library (start grammar) (root ((start grammar).depth library))
      fun _ _ => True := by
    have state : Orders library (start grammar) get
        fun state after => state = start grammar ∧ after = start grammar :=
      .of_run rfl orderly (.refl _) ⟨rfl, rfl⟩
    unfold root
    apply state.bind
    rintro _ _ - - ⟨rfl, rfl⟩
    simp only [host]
    exact (proceeds_rule _ _ _ _ orderly orderly.host.repository (admissible_of_free rfl)).weaken
      fun _ _ _ _ => trivial
  exact (orders _ _ rfl).1

/-- It stays so when a rule without an owner is compiled. -/
theorem Orderly.compileRule (orderly : compilation.Orderly) (library : Library)
    {around : Surroundings} (free : around.repository.Free) {node : Node}
    (unowned : node.site.owner? = none) :
    (compilation.compileRule library around node).2.Orderly :=
  (proceeds_rule _ _ _ _ orderly free (admissible_of_free unowned) _ _ rfl).1

end Compilation

end ScopeTokenizer.Grammar
