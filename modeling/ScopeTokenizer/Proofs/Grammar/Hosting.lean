import ScopeTokenizer.Proofs.Grammar.Underway
import ScopeTokenizer.Proofs.Grammar.Ways

/-!
# What includes lead to

A rule may include named rules, the grammar that it is written in, the host, or any grammar by its
name. A rule that has been compiled was met on some way, and its includes have the numbers of the
places of what they mean on that way. All this is so even if some of the compiling ends in an error.
One lemma for each operation of compiling says so.
-/

namespace ScopeTokenizer.Grammar

open Pattern Scope Text

namespace Compilation

variable {sources : Sources} {starts : Visit → Prop}
  {before middle after compilation : Compilation} {id : RuleId} {rule : Rule} {outer : List Site}
  {around : Surroundings} {node : Node}

/-! ## What includes refer to -/

/-- What an entry is compiled to inside a rule: the rule that it is itself, or what it includes. -/
structure RefersFrom (sources : Sources) (starts : Visit → Prop) (compilation : Compilation)
    (inside : Surroundings) (entry : Node) (ref : RuleId) : Prop where
  own : entry.rule.includeName = none → compilation.number? entry.site = some ref
  included : ∀ text, entry.rule.includeName = some text → ∃ there target,
    sources.Means starts inside text there target ∧ compilation.number? target.site = some ref

/-- The inside of a rule is all that is written there, as it is seen on some way to the rule. -/
structure RefersEach (sources : Sources) (starts : Visit → Prop) (compilation : Compilation)
    (node : Node) (inner : Inner) : Prop where
  complete : inner.incomplete = false
  entries : ∃ outer around, sources.Way starts (.rule outer around node) ∧
    List.Forall₂ (compilation.RefersFrom sources starts (node.inside around)) node.entries
      inner.patterns

/-- A rule with a number is that of a capture, or the number is that of a place. It stands for what
is met at any place with the number. -/
structure Stems (sources : Sources) (starts : Visit → Prop) (compilation : Compilation)
    (id : RuleId) (rule : Rule) : Prop where
  origin : (∃ contentName inner, rule.kind = .capture contentName inner) ∨
    ∃ site, compilation.number? site = some id
  met : ∀ site, compilation.number? site = some id →
    ∃ node, node.site = site ∧ compilation.RefersEach sources starts node rule.inner

theorem Stems.complete (stems : compilation.Stems sources starts id rule) :
    rule.inner.incomplete = false := by
  rcases stems.origin with ⟨contentName, inner, is⟩ | ⟨site, number⟩
  · rw [Rule.inner, is]
  · obtain ⟨node, -, refers⟩ := stems.met site number
    exact refers.complete

/-- Places keep the numbers that they have. -/
def Carries (before after : Compilation) : Prop :=
  ∀ site id, before.number? site = some id → after.number? site = some id

theorem RefersFrom.mono {entry : Node} {ref : RuleId}
    (refers : before.RefersFrom sources starts around entry ref) (carries : before.Carries after) :
    after.RefersFrom sources starts around entry ref where
  own := fun own => carries _ _ (refers.own own)
  included := fun text is => by
    obtain ⟨there, target, means, number⟩ := refers.included text is
    exact ⟨there, target, means, carries _ _ number⟩

theorem RefersEach.mono {inner : Inner} (refers : before.RefersEach sources starts node inner)
    (carries : before.Carries after) : after.RefersEach sources starts node inner := by
  obtain ⟨complete, outer, around, way, entries⟩ := refers
  exact ⟨complete, outer, around, way, entries.imp fun _ _ refers => refers.mono carries⟩

/-- A rule stems from the same place as long as no other place gets its number. -/
theorem Stems.mono (stems : before.Stems sources starts id rule) (carries : before.Carries after)
    (back : ∀ site, after.number? site = some id → before.number? site = some id) :
    after.Stems sources starts id rule where
  origin := stems.origin.imp_right fun ⟨site, number⟩ => ⟨site, carries site id number⟩
  met := fun site number => by
    obtain ⟨node, here, refers⟩ := stems.met site (back site number)
    exact ⟨node, here, refers.mono carries⟩

/-! ## Rules that are met -/

/-- A rule is being compiled that was met on a way. Its place and those that it is inside of have
numbers by then. -/
structure Opened (sources : Sources) (starts : Visit → Prop) (compilation : Compilation)
    (outer : List Site) (around : Surroundings) (node : Node) : Prop where
  way : sources.Way starts (.rule outer around node)
  numbered : ∀ site ∈ node.site :: outer, ∃ id, compilation.number? site = some id

/-- A rule has been met before, or it is met now, on a way that is inside of rules with numbers. -/
def Seated (sources : Sources) (starts : Visit → Prop) (compilation : Compilation)
    (around : Surroundings) (node : Node) : Prop :=
  compilation.number? node.site = none → ∃ outer,
    (∀ site ∈ outer, ∃ id, compilation.number? site = some id) ∧
      sources.Way starts (.rule outer around node)

theorem Opened.mono (opened : before.Opened sources starts outer around node)
    (carries : before.Carries after) : after.Opened sources starts outer around node where
  way := opened.way
  numbered := fun site mem => by
    obtain ⟨id, number⟩ := opened.numbered site mem
    exact ⟨id, carries site id number⟩

/-- What a way goes on to has a number, or nothing on the way is at its place. -/
theorem Opened.seated {there : Surroundings} {target : Node}
    (opened : compilation.Opened sources starts outer around node)
    (goes : target.site ∉ node.site :: outer →
      sources.Way starts (.rule (node.site :: outer) there target)) :
    compilation.Seated sources starts there target := by
  intro fresh
  refine ⟨node.site :: outer, opened.numbered, goes fun mem => ?_⟩
  obtain ⟨id, number⟩ := opened.numbered _ mem
  cases fresh.symm.trans number

theorem Seated.opened (seated : compilation.Seated sources starts around node)
    (fresh : compilation.number? node.site = none) :
    ∃ outer, (compilation.openAt node.site).Opened sources starts outer around node := by
  obtain ⟨outer, numbered, way⟩ := seated fresh
  refine ⟨outer, way, List.forall_mem_cons.mpr ⟨⟨compilation.table.size + 1, ?_⟩, ?_⟩⟩
  · rw [number?_openAt, if_pos rfl]
  · intro site mem
    obtain ⟨id, number⟩ := numbered site mem
    exact ⟨id, number?_openAt_of_fresh fresh number⟩

/-! ## Being grounded -/

/-- Compiling has gone on, to an answer or to an error. -/
structure Prolongs (before after : Compilation) : Prop where
  table : before.table.Grows after.table
  carries : before.Carries after

theorem Extends.prolongs (extended : before.Extends after) : before.Prolongs after :=
  ⟨extended.table, fun _ _ number => extended.number? number⟩

theorem Prolongs.refl (compilation : Compilation) : compilation.Prolongs compilation :=
  ⟨.refl _, fun _ _ number => number⟩

theorem Prolongs.trans (first : before.Prolongs middle) (second : middle.Prolongs after) :
    before.Prolongs after :=
  ⟨first.table.trans second.table,
    fun site id number => second.carries site id (first.carries site id number)⟩

theorem prolongs_reserve (compilation : Compilation) : compilation.Prolongs compilation.reserve :=
  ⟨compilation.table.grows_reserve, fun _ _ number => number⟩

theorem prolongs_openAt {site : Site} (fresh : compilation.number? site = none) :
    compilation.Prolongs (compilation.openAt site) :=
  ⟨compilation.table.grows_reserve, fun _ _ number => number?_openAt_of_fresh fresh number⟩

/-- A place that was taken may be filled later. -/
theorem Prolongs.put (start : before.Prolongs middle) (later : middle.Prolongs after)
    (is : rule.id = before.table.size + 1) : before.Prolongs (after.put rule) where
  table := (start.table.trans later.table).put (is ▸ Nat.lt_succ_self _)
  carries := fun site id number => later.carries site id (start.carries site id number)

/-- All grammars and all rules were met on ways, and the rule that stands for the host was numbered
first. -/
structure Grounded (sources : Sources) (starts : Visit → Prop) (compilation : Compilation) :
    Prop where
  host : compilation.host = .ofDef sources.host none
  included : ∀ entry ∈ compilation.included, sources.Way starts (.grammar entry.1 entry.2)
  base : compilation.number? sources.base.site = some 1
  distinct : compilation.Distinct
  rules : ∀ {id rule}, compilation.table.rule? id = some rule →
    compilation.Stems sources starts id rule

namespace Grounded

theorem base?_host (grounded : compilation.Grounded sources starts) :
    compilation.host.base? = some sources.base := by
  rw [grounded.host]
  exact LinkedGrammar.base?_ofDef sources.host none

theorem withIncluded (grounded : compilation.Grounded sources starts) {scope : String}
    {grammar : LinkedGrammar} (way : sources.Way starts (.grammar scope grammar)) (extent : Nat) :
    { compilation with
      included := compilation.included.insert scope grammar
      extent }.Grounded sources starts := by
  refine ⟨grounded.host, fun entry mem => ?_, grounded.base,
    ⟨grounded.distinct.range, grounded.distinct.apart⟩, fun found => ?_⟩
  · rcases Keyed.eq_or_mem_of_mem_insert mem with rfl | mem
    · exact way
    · exact grounded.included entry mem
  · exact (grounded.rules found).mono (fun _ _ number => number) fun _ number => number

theorem reserve (grounded : compilation.Grounded sources starts) :
    compilation.reserve.Grounded sources starts := by
  refine ⟨grounded.host, grounded.included, grounded.base, grounded.distinct.reserve,
    fun found => ?_⟩
  rw [Compilation.reserve, RuleTable.rule?_reserve] at found
  exact (grounded.rules found).mono (fun _ _ number => number) fun _ number => number

theorem openAt (grounded : compilation.Grounded sources starts) {site : Site}
    (fresh : compilation.number? site = none) :
    (compilation.openAt site).Grounded sources starts := by
  have carries := (prolongs_openAt fresh).carries
  refine ⟨grounded.host, grounded.included, carries _ _ grounded.base,
    grounded.distinct.openAt site, fun found => ?_⟩
  rw [Compilation.openAt, Compilation.reserve, RuleTable.rule?_reserve] at found
  refine (grounded.rules found).mono carries fun other number => ?_
  rw [number?_openAt] at number
  split at number
  · cases number
    exact absurd (RuleTable.le_size_of_rule? found) (Nat.not_succ_le_self _)
  · exact number

theorem put (grounded : compilation.Grounded sources starts) (positive : 0 < rule.id)
    (le : rule.id ≤ compilation.table.size)
    (stems : compilation.Stems sources starts rule.id rule) :
    (compilation.put rule).Grounded sources starts := by
  refine ⟨grounded.host, grounded.included, grounded.base, grounded.distinct.put rule,
    fun {number other} found => ?_⟩
  by_cases own : number = rule.id
  · subst own
    have is : (compilation.put rule).table.rule? rule.id = some rule :=
      compilation.table.rule?_put_self positive le
    cases is.symm.trans found
    exact stems.mono (fun _ _ number => number) fun _ number => number
  · rw [Compilation.put, compilation.table.rule?_put_of_ne own positive] at found
    exact (grounded.rules found).mono (fun _ _ number => number) fun _ number => number

end Grounded

end Compilation

namespace Compile

open Compilation

variable {α β : Type} {sources : Sources} {starts : Visit → Prop} {before : Compilation}
  {outer : List Site} {around : Surroundings} {node : Node}

/-! ## Staying grounded -/

/-- Compiling keeps a compilation grounded, also when it ends in an error. If there is an answer, no
new number is left without a rule, and `post` holds of the answer. -/
def Grounds (sources : Sources) (starts : Visit → Prop) (before : Compilation) (compile : Compile α)
    (post : α → Compilation → Prop) : Prop :=
  ∀ answer after, before.run sources.library compile = (answer, after) →
    after.Grounded sources starts ∧ before.Prolongs after ∧
      ∀ a, answer = .ok a → before.Extends after ∧ post a after

namespace Grounds

variable {post wanted : α → Compilation → Prop} {compile : Compile α}

theorem of_run {a : α} {after : Compilation}
    (run : before.run sources.library compile = (.ok a, after))
    (grounded : after.Grounded sources starts)
    (extended : before.Extends after) (given : post a after) :
    Grounds sources starts before compile post := by
  intro answer after' run'
  cases run.symm.trans run'
  refine ⟨grounded, extended.prolongs, ?_⟩
  rintro _ ⟨⟩
  exact ⟨extended, given⟩

theorem pure (grounded : before.Grounded sources starts) {a : α} (given : post a before) :
    Grounds sources starts before (Pure.pure a) post :=
  of_run rfl grounded (.refl _) given

theorem throw (grounded : before.Grounded sources starts) (error : GrammarError) :
    Grounds sources starts before (throw error : Compile α) post := by
  rintro _ _ ⟨⟩
  exact ⟨grounded, .refl _, nofun⟩

theorem bind {first : Compile α} {next : α → Compile β} {last : β → Compilation → Prop}
    (start : Grounds sources starts before first post)
    (rest : ∀ a middle, middle.Grounded sources starts → before.Extends middle → post a middle →
      Grounds sources starts middle (next a) last) :
    Grounds sources starts before (first >>= next) last := by
  intro answer after run
  rw [run_bind] at run
  split at run
  · next a middle run' =>
    obtain ⟨grounded, prolongs, given⟩ := start _ middle run'
    obtain ⟨extended, given⟩ := given a rfl
    obtain ⟨grounded', prolongs', last⟩ := rest a middle grounded extended given answer after run
    refine ⟨grounded', prolongs.trans prolongs', fun b is => ?_⟩
    obtain ⟨extended', last⟩ := last b is
    exact ⟨extended.trans extended', last⟩
  · next error middle run' =>
    cases run
    obtain ⟨grounded, prolongs, -⟩ := start _ _ run'
    exact ⟨grounded, prolongs, nofun⟩

theorem weaken (grounds : Grounds sources starts before compile post)
    (post : ∀ a after, before.Extends after → post a after → wanted a after) :
    Grounds sources starts before compile wanted := by
  intro answer after run
  obtain ⟨grounded, prolongs, given⟩ := grounds answer after run
  refine ⟨grounded, prolongs, fun a is => ?_⟩
  obtain ⟨extended, given⟩ := given a is
  exact ⟨extended, post a after extended given⟩

/-- The compilation is grounded where the answer is given. -/
theorem frame (grounds : Grounds sources starts before compile post) :
    Grounds sources starts before compile fun a after =>
      after.Grounded sources starts ∧ post a after := by
  intro answer after run
  obtain ⟨grounded, prolongs, given⟩ := grounds answer after run
  refine ⟨grounded, prolongs, fun a is => ?_⟩
  obtain ⟨extended, given⟩ := given a is
  exact ⟨extended, grounded, given⟩

end Grounds

/-! ## Grammars -/

/-- A grammar is looked up by somebody on a way, or it was looked up before. -/
theorem grounds_grammar? (grounded : before.Grounded sources starts) {scope : String}
    {base : Option Node} (links : ∀ grammar, sources.link? scope base = some grammar →
      sources.Way starts (.grammar scope grammar)) :
    Grounds sources starts before (grammar? scope base)
      fun answer _ => ∀ grammar, answer = some grammar →
        sources.Way starts (.grammar scope grammar) := by
  have hostName : before.host.scopeName = sources.host.scopeName := by
    rw [grounded.host]
    rfl
  have answers {grammar : LinkedGrammar} (way : sources.Way starts (.grammar scope grammar)) :
      Grounds sources starts before (pure (some grammar)) fun answer _ => ∀ grammar,
        answer = some grammar → sources.Way starts (.grammar scope grammar) := by
    refine .pure grounded ?_
    rintro _ ⟨⟩
    exact way
  have state : Grounds sources starts before get fun state after =>
      state = before ∧ after = before :=
    .of_run rfl grounded (.refl _) ⟨rfl, rfl⟩
  unfold grammar?
  apply state.bind
  rintro _ _ - - ⟨rfl, rfl⟩
  dsimp only
  split
  · next grammar known => exact answers (grounded.included _ (Keyed.mem_of_find? known))
  · split
    · next host =>
      apply answers
      apply links
      rw [Sources.link?, if_pos (host.trans hostName), grounded.host]
    · next other =>
      have library : Grounds sources starts _ read
          fun library after => library = sources.library ∧ after = _ :=
        .of_run rfl grounded (.refl _) ⟨rfl, rfl⟩
      apply library.bind
      rintro _ _ - - ⟨rfl, rfl⟩
      split
      · refine .pure grounded ?_
        rintro _ ⟨⟩
      · next definition known =>
        have way : sources.Way starts (.grammar scope (.ofDef definition base)) := by
          apply links
          rw [Sources.link?, if_neg fun host => other (host.trans hostName.symm), known]
          rfl
        refine .of_run rfl (grounded.withIncluded way _)
          ⟨.refl _, id, (Extends.refl _).filled⟩ ?_
        rintro _ ⟨⟩
        exact way

/-! ## Registering -/

/-- A number is taken, and then a rule is made for it. -/
theorem grounds_register {make : RuleId → Compile Rule} {P : Compilation → Prop}
    (puts : ∀ after rule, P after → P (after.put rule))
    (makes : Grounds sources starts before.reserve (make (before.table.size + 1)) fun rule after =>
      rule.id = before.table.size + 1 ∧ after.Stems sources starts rule.id rule ∧ P after) :
    Grounds sources starts before (register make) fun id after =>
      id = before.table.size + 1 ∧ P after := by
  intro answer after run
  rw [run_register] at run
  split at run
  · next rule middle made =>
    cases run
    obtain ⟨grounded, prolongs, given⟩ := makes _ middle made
    obtain ⟨extended, is, stems, known⟩ := given rule rfl
    have positive : 0 < rule.id := is ▸ Nat.succ_pos _
    have le : rule.id ≤ middle.table.size :=
      is ▸ Nat.le_trans before.size_reserve_le prolongs.table.size_le
    refine ⟨grounded.put positive le stems, before.prolongs_reserve.put prolongs is, ?_⟩
    rintro _ ⟨⟩
    refine ⟨extended.put before.table.grows_reserve (RuleTable.size_reserve _) id _ is, rfl, ?_⟩
    exact puts middle rule known
  · next error middle made =>
    cases run
    obtain ⟨grounded, prolongs, -⟩ := makes _ _ made
    exact ⟨grounded, before.prolongs_reserve.trans prolongs, nofun⟩

/-- A place gets a number, and then its rule is made. -/
theorem grounds_registerNew (opened : (before.openAt node.site).Grounded sources starts)
    (fresh : before.number? node.site = none)
    {make : RuleId → Compile Rule}
    (makes : Grounds sources starts (before.openAt node.site) (make (before.table.size + 1))
      fun rule after =>
        rule.id = before.table.size + 1 ∧ after.RefersEach sources starts node rule.inner) :
    Grounds sources starts before
      (register fun id => do
        modify fun state => { state with numbers := (node.site, id) :: state.numbers }
        make id)
      fun id after => after.number? node.site = some id := by
  have number : (before.openAt node.site).number? node.site = some (before.table.size + 1) := by
    rw [number?_openAt, if_pos rfl]
  have opens : before.reserve.Extends (before.openAt node.site) :=
    ⟨.refl _, number?_openAt_of_fresh fresh, (Extends.refl before.reserve).filled⟩
  have notes : Grounds sources starts before.reserve
      (modify fun state => { state with
        numbers := (node.site, before.table.size + 1) :: state.numbers })
      fun _ after => after = before.openAt node.site := .of_run rfl opened opens rfl
  refine (grounds_register
    (P := fun after => after.number? node.site = some (before.table.size + 1))
    (fun _ _ given => given) (notes.bind ?_)).weaken ?_
  · rintro _ _ - - rfl
    refine makes.frame.weaken fun rule after extended given => ?_
    obtain ⟨grounded, is, refers⟩ := given
    have number := extended.number? number
    refine ⟨is, ⟨.inr ⟨node.site, is ▸ number⟩, fun site number' => ?_⟩, number⟩
    exact ⟨node, grounded.distinct.apart number (is ▸ number'), refers⟩
  · rintro id after - ⟨rfl, number⟩
    exact number

/-- A place has the number that it had before, or it gets one together with its rule. -/
theorem grounds_registerAt (grounded : before.Grounded sources starts)
    (seated : before.Seated sources starts around node) {make : RuleId → Compile Rule}
    (makes : ∀ outer, (before.openAt node.site).Grounded sources starts →
      (before.openAt node.site).Opened sources starts outer around node →
      Grounds sources starts (before.openAt node.site) (make (before.table.size + 1))
        fun rule after => rule.id = before.table.size + 1 ∧
          after.RefersEach sources starts node rule.inner) :
    Grounds sources starts before (registerAt node.site make)
      fun id after => after.number? node.site = some id := by
  have asks : Grounds sources starts before (Compile.number? node.site)
      fun answer after => answer = before.number? node.site ∧ after = before :=
    .of_run rfl grounded (.refl _) ⟨rfl, rfl⟩
  unfold registerAt
  apply asks.bind
  rintro answer middle - - ⟨rfl, rfl⟩
  cases known : middle.number? node.site with
  | some id => exact .pure grounded known
  | none =>
    obtain ⟨outer, opened⟩ := seated.opened known
    have grounded := grounded.openAt known
    exact grounds_registerNew grounded known (makes outer grounded opened)

/-! ## Parts of rules -/

section Rules

/-- Whatever the rest of a grammar is compiled to, a rule that is met has the number of its place
then. -/
def Hosts (sources : Sources) (starts : Visit → Prop)
    (compile : Surroundings → Node → Compile RuleId) : Prop :=
  ∀ before around node, before.Grounded sources starts →
    before.Seated sources starts around node → Grounds sources starts before (compile around node)
      fun id after => after.number? node.site = some id

variable {compile : Surroundings → Node → Compile RuleId} (hosts : Hosts sources starts compile)
  (grounded : before.Grounded sources starts)

/-! ### Includes -/

section Includes

include hosts grounded in
/-- An entry has the number of the place where it is written. -/
theorem grounds_entry {there : Surroundings} (text : String) {name : String}
    (seated : ∀ target, there.repository.find? name = some target →
      before.Seated sources starts there target) :
    Grounds sources starts before (entry compile around text there name)
      (NumberOf (there.repository.find? name)) := by
  unfold entry
  split
  · next target found =>
    exact (hosts before there target grounded (seated target found)).weaken
      fun id after _ number => ⟨target, found, number⟩
  · exact .throw grounded _

variable (opened : before.Opened sources starts outer around node) {text : String}
  (includes : node.Includes text)

include hosts grounded opened includes

theorem grounds_entryOf {scope name : String}
    (elsewhere : (IncludeTarget.ofText text).outerName? = some (scope, name)) :
    Grounds sources starts before (entryOf compile (node.inside around) text scope name)
      fun id after => ∃ there target,
        sources.Means starts (node.inside around) text there target ∧
          after.number? target.site = some id := by
  unfold entryOf
  have looks := grounds_grammar? grounded fun grammar =>
    Sources.Way.grammar opened.way includes elsewhere
  apply looks.bind
  rintro answer middle grounded extended met
  cases answer with
  | none => exact .throw grounded _
  | some grammar =>
    have means {target : Node} (found : grammar.repository.find? name = some target) :
        sources.Means starts (node.inside around) text grammar.surroundings target :=
      .entry elsewhere (met grammar rfl) found
    have opened := opened.mono extended.prolongs.carries
    refine (grounds_entry hosts grounded text fun target found =>
      opened.seated (opened.way.include includes (means found))).weaken ?_
    rintro id after - ⟨target, found, number⟩
    exact ⟨_, target, means found, number⟩

theorem grounds_resolve : Grounds sources starts before (resolve compile (node.inside around) text)
    fun id after => ∃ there target, sources.Means starts (node.inside around) text there target ∧
      after.number? target.site = some id := by
  have shared {name : String} (isLocal : (IncludeTarget.ofText text).localName? = some name) :
      Grounds sources starts before
        (entry compile (node.inside around) text (node.inside around) name)
        fun id after => ∃ there target,
          sources.Means starts (node.inside around) text there target ∧
            after.number? target.site = some id := by
    have means {target : Node} (found : (node.inside around).repository.find? name = some target) :
        sources.Means starts (node.inside around) text (node.inside around) target :=
      .named isLocal found
    refine (grounds_entry hosts grounded text fun target found =>
      opened.seated (opened.way.include includes (means found))).weaken ?_
    rintro id after - ⟨target, found, number⟩
    exact ⟨_, target, means found, number⟩
  have elsewhere {scope name : String}
      (outer : (IncludeTarget.ofText text).outerName? = some (scope, name)) :=
    grounds_entryOf hosts grounded opened includes outer
  unfold resolve
  cases target : IncludeTarget.ofText text with
  | self | base | entry =>
    rw [target] at shared
    exact shared rfl
  | grammar | entryOf =>
    rw [target] at elsewhere
    exact elsewhere rfl

end Includes

/-- No rule is left out, since none is incomplete. -/
theorem grounds_unlessHollow (grounded : before.Grounded sources starts) (id : RuleId) :
    Grounds sources starts before
      (do if (← rule? id).any Rule.isHollow then return none else return some id)
      fun answer after => answer = some id ∧ after = before := by
  have solid : (before.table.rule? id).any Rule.isHollow = false := by
    cases found : before.table.rule? id with
    | none => rfl
    | some rule => simp [Rule.isHollow, (grounded.rules found).complete]
  have asks : Grounds sources starts before (rule? id)
      fun answer after => answer = before.table.rule? id ∧ after = before :=
    .of_run rfl grounded (.refl _) ⟨rfl, rfl⟩
  apply asks.bind
  rintro _ _ - - ⟨rfl, rfl⟩
  rw [solid]
  exact .pure grounded ⟨rfl, rfl⟩

/-- What is known of each value that was made stays known while others are made. -/
theorem grounds_filterMapM {γ : Type} {f : α → Compile (Option γ)} {P : α → γ → Compilation → Prop}
    (grounded : before.Grounded sources starts)
    (stays : ∀ a c {before after : Compilation}, before.Carries after → P a c before → P a c after)
    {list : List α}
    (each : ∀ a ∈ list, ∀ middle, middle.Grounded sources starts → before.Carries middle →
      Grounds sources starts middle (f a) fun answer after => ∃ c, answer = some c ∧ P a c after) :
    Grounds sources starts before (list.filterMapM f) fun made after =>
      List.Forall₂ (fun a c => P a c after) list made := by
  induction list generalizing before with
  | nil => exact .pure grounded .nil
  | cons a list ih =>
    obtain ⟨first, others⟩ := List.forall_mem_cons.mp each
    rw [List.filterMapM_cons]
    apply (first before grounded fun _ _ number => number).bind
    rintro _ middle grounded extended ⟨c, rfl, given⟩
    have carries := extended.prolongs.carries
    refine (ih grounded fun a mem later grounded carries' => ?_).bind ?_
    · exact others a mem later grounded fun site id number => carries' _ _ (carries _ _ number)
    · intro made after grounded extended rest
      exact .pure grounded (.cons (stays a c extended.prolongs.carries given) rest)

include hosts grounded in
/-- What is tried inside a rule is compiled to what it is, or to what it includes there. -/
theorem grounds_inner (opened : before.Opened sources starts outer around node) :
    Grounds sources starts before (inner compile (node.inside around) node.entries)
      fun made after => after.RefersEach sources starts node made := by
  have stays (entry : Node) (ref : RuleId) {before after : Compilation}
      (carries : before.Carries after)
      (refers : before.RefersFrom sources starts (node.inside around) entry ref) :
      after.RefersFrom sources starts (node.inside around) entry ref := refers.mono carries
  unfold inner
  apply (grounds_filterMapM grounded stays _).bind
  · intro ids after grounded _ refers
    refine .pure grounded ⟨?_, outer, around, opened.way, refers⟩
    simp [refers.length_eq]
  · intro entry mem middle grounded carries
    have opened := opened.mono carries
    have finish {make : Compile RuleId} (makes : Grounds sources starts middle make
        fun id after => after.RefersFrom sources starts (node.inside around) entry id) :
        Grounds sources starts middle
          (make >>= fun id => do
            if (← rule? id).any Rule.isHollow then return none else return some id)
          fun answer after => ∃ id, answer = some id ∧
            after.RefersFrom sources starts (node.inside around) entry id := by
      apply makes.bind
      intro id after grounded _ refers
      refine (grounds_unlessHollow grounded id).weaken ?_
      rintro _ _ - ⟨rfl, rfl⟩
      exact ⟨id, rfl, refers⟩
    cases included : entry.rule.includeName with
    | none =>
      have seated : middle.Seated sources starts (node.inside around) entry :=
        opened.seated (.own opened.way mem included)
      refine finish ((hosts middle _ entry grounded seated).weaken ?_)
      intro id after _ number
      refine ⟨fun _ => number, fun text is => ?_⟩
      cases included.symm.trans is
    | some text =>
      have resolves := grounds_resolve hosts grounded opened ⟨entry, mem, included⟩
      refine finish (resolves.weaken ?_)
      intro id after _ refers
      constructor
      · intro own
        cases included.symm.trans own
      · intro other is
        cases included.symm.trans is
        exact refers

/-! ### Captures -/

theorem grounds_numbered (grounded : before.Grounded sources starts) (around : Surroundings)
    (captures : List (String × Node)) :
    Grounds sources starts before (numbered around captures) fun made _ =>
      made = groups captures := by
  obtain ⟨answer, run, given⟩ := run_numbered before sources.library around captures
  intro answer' after run'
  cases run.symm.trans run'
  exact ⟨grounded, .refl _, fun made is => ⟨.refl _, given made is⟩⟩

include hosts grounded in
theorem grounds_capture
    (seated : node.rule.hasPatterns → before.Seated sources starts around node) :
    Grounds sources starts before (capture compile around node) fun _ _ => True := by
  have makes (before : Compilation) (grounded : before.Grounded sources starts)
      (inner : Option RuleId) : Grounds sources starts before
        (register fun id => return {
          id
          name := node.rule.name.map .ofText
          kind := .capture (node.rule.contentName.map .ofText) inner })
        fun _ _ => True := by
    refine (grounds_register (P := fun _ => True) (fun _ _ _ => trivial) ?_).weaken
      fun _ _ _ _ => trivial
    have unused (site : Site) (number : before.number? site = some (before.table.size + 1)) :
        False := Nat.lt_irrefl _ (grounded.distinct.range number).2
    exact .pure grounded.reserve
      ⟨rfl, ⟨.inl ⟨_, _, rfl⟩, fun site number => (unused site number).elim⟩, trivial⟩
  unfold capture
  split
  · next many =>
    rw [map_eq_pure_bind, bind_assoc]
    apply (hosts before around node grounded (seated many)).bind
    intro id middle grounded _ _
    rw [pure_bind]
    exact makes middle grounded (some id)
  · exact makes before grounded none

section Captures

variable {captures : List (String × Node)}

include hosts in
theorem grounds_foldlM_captures (grounded : before.Grounded sources starts)
    (opened : before.Opened sources starts outer around node) (lists : captures ∈ node.captureLists)
    {groups : List (Nat × Node)}
    (listed : ∀ entry ∈ groups, ∃ key, isNumber key ∧ (key, entry.2) ∈ captures)
    (rules : List (Option RuleId)) :
    Grounds sources starts before
      (groups.foldlM (fun rules (group, node) => do
        return rules.set group (some (← capture compile around node))) rules)
      fun _ _ => True := by
  induction groups generalizing before rules with
  | nil => exact .pure grounded trivial
  | cons entry groups ih =>
    obtain ⟨⟨key, number, mem⟩, others⟩ := List.forall_mem_cons.mp listed
    rw [List.foldlM_cons, bind_assoc]
    apply (grounds_capture hosts grounded fun many =>
      opened.seated (.capture opened.way lists mem number many)).bind
    intro id middle grounded extended _
    rw [pure_bind]
    exact ih grounded (opened.mono extended.prolongs.carries) others _

include hosts grounded in
theorem grounds_captures (opened : before.Opened sources starts outer around node)
    (lists : captures ∈ node.captureLists) :
    Grounds sources starts before (Compile.captures compile around captures) fun _ _ => True := by
  unfold Compile.captures
  apply (grounds_numbered grounded around captures).bind
  rintro _ middle grounded extended rfl
  have opened := opened.mono extended.prolongs.carries
  refine grounds_foldlM_captures hosts grounded opened lists (fun entry mem => ?_) _
  obtain ⟨⟨key, node⟩, numbered, rfl⟩ := List.mem_map.mp mem
  exact ⟨key, (List.mem_filter.mp numbered).2, (List.mem_filter.mp numbered).1⟩

include hosts grounded in
theorem grounds_matching (opened : before.Opened sources starts outer around node)
    (pattern : String) (lists : captures ∈ node.captureLists) :
    Grounds sources starts before (matching compile around pattern captures) fun _ _ => True := by
  apply (grounds_captures hosts grounded opened lists).bind
  intro _ _ grounded _ _
  exact .pure grounded trivial

end Captures

/-! ### Rules -/

include hosts grounded in
/-- After the pattern that opens a region come the other pattern and the inside. -/
theorem grounds_opened (opened : before.Opened sources starts outer around node)
    {opening : String} (begins : node.rule.beginPattern = some opening) (pattern : String)
    {captures : List (String × Node)} (lists : captures ∈ node.captureLists)
    (make : Matching → Inner → RuleKind)
    (keeps : ∀ other inner id name, Rule.inner ⟨id, name, make other inner⟩ = inner) :
    Grounds sources starts before
      (do
        let other ← matching compile around pattern captures
        return make other (← inner compile around node.entries))
      fun kind after => ∀ id name,
        after.RefersEach sources starts node (Rule.inner ⟨id, name, kind⟩) := by
  apply (grounds_matching hosts grounded opened pattern lists).bind
  intro other middle grounded extended _
  have tries := grounds_inner hosts grounded (opened.mono extended.prolongs.carries)
  rw [Node.inside_of_begin begins] at tries
  apply tries.bind
  intro made after grounded _ refers
  refine .pure grounded fun id name => ?_
  rw [keeps]
  exact refers

include hosts grounded in
/-- What a rule does is compiled in its surroundings. Only what is tried inside a container may see
more than that. -/
theorem grounds_kind (opened : before.Opened sources starts outer around node) :
    Grounds sources starts before (kind compile around node)
      fun kind after => ∀ id name,
        after.RefersEach sources starts node (Rule.inner ⟨id, name, kind⟩) := by
  unfold kind
  dsimp only
  cases matched : node.rule.matchPattern with
  | some pattern =>
    have lists := Node.captureLists_of_match matched
    apply (grounds_matching hosts grounded opened pattern (by simp [lists])).bind
    intro made after grounded _ _
    exact .pure grounded fun id name =>
      ⟨rfl, outer, around, opened.way, Node.entries_of_match matched ▸ .nil⟩
  | none =>
    cases begins : node.rule.beginPattern with
    | none =>
      dsimp only
      rw [containerInner_entries matched begins, ← Node.inside_of_bare matched begins]
      apply (grounds_inner hosts grounded opened).bind
      intro made after grounded _ refers
      exact .pure grounded fun id name => refers
    | some pattern =>
      rw [← Node.entries_of_begin matched begins]
      cases continues : node.rule.whilePattern with
      | some condition =>
        have lists := Node.captureLists_of_while matched begins continues
        apply (grounds_matching hosts grounded opened pattern (by simp [lists])).bind
        intro opening middle grounded extended _
        exact grounds_opened hosts grounded (opened.mono extended.prolongs.carries) begins condition
          (by simp [lists]) (.lines _ opening) fun _ _ _ _ => rfl
      | none =>
        have lists := Node.captureLists_of_end matched begins continues
        apply (grounds_matching hosts grounded opened pattern (by simp [lists])).bind
        intro opening middle grounded extended _
        exact grounds_opened hosts grounded (opened.mono extended.prolongs.carries) begins _
          (by simp [lists]) (.region _ opening · node.rule.endPatternLast) fun _ _ _ _ => rfl

include hosts in
/-- So is a rule, which gets the number that is next. -/
theorem grounds_make (grounded : before.Grounded sources starts)
    (opened : before.Opened sources starts outer around node) (id : RuleId) :
    Grounds sources starts before
      (do return ⟨id, node.rule.name.map .ofText, ← kind compile around node⟩ : Compile Rule)
      fun rule after => rule.id = id ∧ after.RefersEach sources starts node rule.inner := by
  apply (grounds_kind hosts grounded opened).bind
  intro kind after grounded _ refers
  exact .pure grounded ⟨rfl, refers _ _⟩

end Rules

/-- A rule that is met gets the number of its place, however deep it goes. -/
theorem hosts_rule (sources : Sources) (starts : Visit → Prop) (depth : Nat) :
    Hosts sources starts (rule depth) := by
  induction depth with
  | zero =>
    intro before around node grounded seated
    exact grounds_registerAt grounded seated fun _ grounded _ => .throw grounded _
  | succ depth ih =>
    intro before around node grounded seated
    exact grounds_registerAt grounded seated fun _ grounded opened =>
      grounds_make ih grounded opened _

end Compile

namespace Compilation

variable {sources : Sources} {starts : Visit → Prop} {before compilation : Compilation}

/-! ## Compiled grammars -/

/-- The rule that stands for the host has its number before anything else is compiled. -/
theorem grounded_openAt_start (sources : Sources) (starts : Visit → Prop) :
    ((start sources.host).openAt sources.base.site).Grounded sources starts := by
  have nothing : (start sources.host).Distinct := ⟨nofun, nofun⟩
  refine ⟨rfl, nofun, ?_, nothing.openAt _, fun {id rule} found => ?_⟩
  · rw [number?_openAt, if_pos rfl]
    rfl
  · rw [openAt, reserve, RuleTable.rule?_reserve] at found
    cases id <;> cases found

/-- Compiling the rule that stands for the host makes a compilation grounded, even if it fails. If
there is an answer, all numbers have rules. -/
theorem grounded_compileRoot (root : ∀ visit, sources.Root visit → starts visit)
    {answer : Except GrammarError RuleId}
    (run : (start sources.host).compileRoot sources.library = (answer, compilation)) :
    compilation.Grounded sources starts ∧ ∀ root, answer = .ok root →
      (start sources.host).Extends compilation ∧
        compilation.number? sources.base.site = some root := by
  have host : (start sources.host).host.self? = some sources.base :=
    LinkedGrammar.self?_ofDef sources.host none
  have grounded := grounded_openAt_start sources starts
  have seated : (start sources.host).Seated sources starts
      (start sources.host).host.surroundings sources.base :=
    fun _ => ⟨[], nofun, .start (root _ .host)⟩
  obtain ⟨outer, opened⟩ := seated.opened rfl
  unfold compileRoot Compile.root Compilation.depth at run
  rw [run_bind, run_get] at run
  simp only [host] at run
  rw [Compile.rule, run_registerAt _ _ rfl] at run
  obtain ⟨grounded, -, given⟩ := Compile.grounds_registerNew grounded rfl
    (Compile.grounds_make (Compile.hosts_rule sources starts _) grounded opened _) _ _ run
  exact ⟨grounded, given⟩

/-- A rule that is met may be compiled later. -/
theorem Grounded.compileRule (grounded : before.Grounded sources starts) {around : Surroundings}
    {node : Node} (seated : before.Seated sources starts around node)
    {answer : Except GrammarError RuleId}
    (run : before.compileRule sources.library around node = (answer, compilation)) :
    compilation.Grounded sources starts :=
  (Compile.hosts_rule sources starts _ before around node grounded seated _ _ run).1

end Compilation

end ScopeTokenizer.Grammar
