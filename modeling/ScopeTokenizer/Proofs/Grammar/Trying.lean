import ScopeTokenizer.Proofs.Grammar.Extent
import ScopeTokenizer.Proofs.Grammar.Faithfulness
import ScopeTokenizer.Proofs.Grammar.Faults

/-!
# Trying to compile

Compiling a rule goes through the rules that have no number yet, as far as they lead to one another.
If there is an answer, all of these are clear. If there is an error, it is the fault of one of them.
One lemma for each operation of compiling says so.
-/

namespace ScopeTokenizer.Grammar

open Compilation Pattern Text

namespace Compilation

variable {sources : Sources} {before after compilation : Compilation}

/-! ## Being sensible -/

/-- All grammars are as the sources have them, and the rule that stands for the host has a
number. -/
structure Sensible (sources : Sources) (compilation : Compilation) : Prop where
  host : compilation.host = .ofDef sources.host none
  included : ∀ {scope grammar}, compilation.included.find? scope = some grammar →
    sources.linked? scope = some grammar
  extent : sources.host.size ≤ compilation.extent
  base : compilation.number? sources.base.site ≠ none

/-- Everything is ready for rules to be compiled, which may be nested so deep. -/
structure Ready (sources : Sources) (depth : Nat) (compilation : Compilation) : Prop where
  sensible : compilation.Sensible sources
  room : sources.unnumbered compilation < depth

/-- Compiling a rule is underway since `origin`. -/
structure Inside (sources : Sources) (depth : Nat) (origin compilation : Compilation) : Prop
    extends compilation.Ready sources depth where
  retains : origin.Retains compilation

theorem Inside.go {depth : Nat} {origin : Compilation} (inside : origin.Inside sources depth before)
    (sensible : after.Sensible sources) (advances : before.Advances sources after) :
    origin.Inside sources depth after where
  sensible := sensible
  room := Nat.lt_of_le_of_lt (Sources.unnumbered_mono fun _ => advances.retains) inside.room
  retains := fun missing => inside.retains (advances.retains missing)

theorem Sensible.openAt (sensible : compilation.Sensible sources) (site : Site) :
    (compilation.openAt site).Sensible sources := by
  refine ⟨sensible.host, sensible.included, sensible.extent, ?_⟩
  rw [number?_openAt]
  split
  · exact nofun
  · exact sensible.base

theorem retains_openAt (compilation : Compilation) (site : Site) :
    compilation.Retains (compilation.openAt site) := by
  intro other missing
  rw [number?_openAt] at missing
  split at missing
  · cases missing
  · exact missing

/-- So a rule advances that got a number first, and is clear in the end. -/
theorem Advances.of_openAt {node : Node} (written : sources.ruleAt? node.site = some node.rule)
    (advances : (before.openAt node.site).Advances sources after)
    (clear : after.Clear sources node) : before.Advances sources after where
  retains := fun missing => retains_openAt _ _ (advances.retains missing)
  clear := fun other written' fresh numbered => by
    by_cases own : other.site = node.site
    · rw [Sources.eq_of_site_eq written' written own]
      exact clear
    · refine advances.clear other written' ?_ numbered
      rw [number?_openAt, if_neg own]
      exact fresh

end Compilation

namespace Compile

variable {α β : Type} {sources : Sources} {before : Compilation} {fails : GrammarError → Prop}

/-! ## Trying -/

/-- A compilation stays sensible. If compiling gives an answer, all rules that got numbers are
clear, and `post` holds of the answer. If it gives an error, `fails` holds of that. -/
structure Tries (sources : Sources) (before : Compilation) (compile : Compile α)
    (fails : GrammarError → Prop) (post : α → Compilation → Prop) : Prop where
  succeeds : ∀ a after, before.run sources.library compile = (.ok a, after) →
    after.Sensible sources ∧ before.Advances sources after ∧ post a after
  fails : ∀ error after, before.run sources.library compile = (.error error, after) →
    after.Sensible sources ∧ before.Retains after ∧ fails error

namespace Tries

variable {post wanted : α → Compilation → Prop} {compile : Compile α}

/-- Compiling may give an answer in any case. -/
theorem of_run {a : α} {after : Compilation}
    (run : before.run sources.library compile = (.ok a, after)) (sensible : after.Sensible sources)
    (advances : before.Advances sources after) (given : post a after) :
    Tries sources before compile fails post := by
  constructor
  · intro b after' run'
    cases run.symm.trans run'
    exact ⟨sensible, advances, given⟩
  · intro error after' run'
    cases run.symm.trans run'

theorem pure (sensible : before.Sensible sources) {a : α} (given : post a before) :
    Tries sources before (Pure.pure a) fails post :=
  of_run rfl sensible (.refl _) given

theorem throw (sensible : before.Sensible sources) {error : GrammarError} (given : fails error) :
    Tries sources before (throw error : Compile α) fails post := by
  constructor
  · rintro _ _ ⟨⟩
  · rintro _ _ ⟨⟩
    exact ⟨sensible, id, given⟩

theorem bind {first : Compile α} {next : α → Compile β} {last : β → Compilation → Prop}
    (start : Tries sources before first fails post)
    (rest : ∀ a middle, middle.Sensible sources → before.Advances sources middle →
      post a middle → Tries sources middle (next a) fails last) :
    Tries sources before (first >>= next) fails last := by
  constructor
  · intro b after run
    obtain ⟨a, middle, run, run'⟩ := run_bind_eq_ok run
    obtain ⟨sensible, advances, given⟩ := start.succeeds a middle run
    obtain ⟨sensible, advances', last⟩ :=
      (rest a middle sensible advances given).succeeds b after run'
    exact ⟨sensible, advances.trans advances', last⟩
  · intro error after run
    rw [run_bind] at run
    split at run
    · next a middle run' =>
      obtain ⟨sensible, advances, given⟩ := start.succeeds a middle run'
      obtain ⟨sensible, retains, fails⟩ :=
        (rest a middle sensible advances given).fails error after run
      exact ⟨sensible, fun missing => advances.retains (retains missing), fails⟩
    · next error middle run' =>
      cases run
      exact start.fails _ _ run'

theorem weaken {others : GrammarError → Prop} (tries : Tries sources before compile fails post)
    (error : ∀ error, fails error → others error)
    (post : ∀ a after, post a after → wanted a after) :
    Tries sources before compile others wanted := by
  constructor
  · intro a after run
    obtain ⟨sensible, advances, given⟩ := tries.succeeds a after run
    exact ⟨sensible, advances, post a after given⟩
  · intro error' after run
    obtain ⟨sensible, retains, given⟩ := tries.fails error' after run
    exact ⟨sensible, retains, error error' given⟩

/-- What was known before is still to be had when there is an answer. -/
theorem frame (tries : Tries sources before compile fails post) :
    Tries sources before compile fails fun a after => before.Retains after ∧ post a after := by
  refine ⟨fun a after run => ?_, tries.fails⟩
  obtain ⟨sensible, advances, given⟩ := tries.succeeds a after run
  exact ⟨sensible, advances, advances.retains, given⟩

/-- There is an answer unless something fails, if an answer excludes that. -/
theorem succeeds_iff (tries : Tries sources before compile fails post)
    (excluded : ∀ a after, before.Advances sources after → post a after →
      ∀ error, ¬ fails error) :
    (∃ a after, before.run sources.library compile = (.ok a, after)) ↔ ∀ error, ¬ fails error := by
  constructor
  · rintro ⟨a, after, run⟩
    obtain ⟨-, advances, given⟩ := tries.succeeds a after run
    exact excluded a after advances given
  · intro faultless
    match run : before.run sources.library compile with
    | (.ok a, after) => exact ⟨a, after, rfl⟩
    | (.error error, after) => exact absurd (tries.fails error after run).2.2 (faultless error)

theorem of_run_eq {other : Compile α} (tries : Tries sources before other fails post)
    (same : before.run sources.library compile = before.run sources.library other) :
    Tries sources before compile fails post :=
  ⟨fun a after run => tries.succeeds a after (same.symm.trans run),
    fun error after run => tries.fails error after (same.symm.trans run)⟩

end Tries

/-! ## Grammars -/

theorem tries_grammar? (sensible : before.Sensible sources) (scope : String) :
    Tries sources before (grammar? scope (some sources.base)) fails
      fun answer _ => answer = sources.linked? scope := by
  have hostName : before.host.scopeName = sources.host.scopeName := by
    rw [sensible.host]
    rfl
  have answers {answer : Option LinkedGrammar} (linked : sources.linked? scope = answer) :
      Tries sources before (pure answer) fails fun answer _ => answer = sources.linked? scope :=
    .pure sensible linked.symm
  have state : Tries sources before get fails fun state after => state = before ∧ after = before :=
    .of_run rfl sensible (.refl _) ⟨rfl, rfl⟩
  unfold grammar?
  apply state.bind
  rintro _ _ - - ⟨rfl, rfl⟩
  dsimp only
  split
  · next grammar known => exact answers (sensible.included known)
  · split
    · next host =>
      apply answers
      rw [Sources.linked?, Sources.grammar?, if_pos (host.trans hostName), sensible.host]
      rfl
    · next other =>
      have found : sources.grammar? scope = sources.library.find? scope :=
        if_neg fun host => other (host.trans hostName.symm)
      have library : Tries sources _ read fails
          fun library after => library = sources.library ∧ after = _ :=
        .of_run rfl sensible (.refl _) ⟨rfl, rfl⟩
      apply library.bind
      rintro _ _ - - ⟨rfl, rfl⟩
      split
      · next unknown =>
        apply answers
        rw [Sources.linked?, found, unknown]
        rfl
      · next definition known =>
        have linked : sources.linked? scope = some (.ofDef definition (some sources.base)) := by
          rw [Sources.linked?, found, known]
          rfl
        refine .of_run rfl ⟨sensible.host, fun {scope' _} known => ?_, ?_, sensible.base⟩
          (.of_numbers rfl) linked.symm
        · rw [Keyed.find?_insert] at known
          split at known
          · next is =>
            cases known
            exact is ▸ linked
          · exact sensible.included known
        · exact Nat.le_add_right_of_le sensible.extent

/-! ## Registering -/

/-- A number that belongs to no place changes nothing for the places. -/
theorem tries_register {make : RuleId → Compile Rule}
    (makes : Tries sources before.reserve (make (before.table.size + 1)) fails fun _ _ => True) :
    Tries sources before (register make) fails fun _ _ => True := by
  constructor
  · intro id after run
    obtain ⟨rfl, rule, middle, made, rfl⟩ := run_register_eq_ok run
    obtain ⟨sensible, advances, -⟩ := makes.succeeds rule middle made
    have reserved : before.Advances sources before.reserve := .of_numbers rfl
    exact ⟨⟨sensible.host, sensible.included, sensible.extent, sensible.base⟩,
      (reserved.trans advances).trans (.of_numbers rfl), trivial⟩
  · intro error after run
    rw [run_register] at run
    split at run
    · cases run
    · cases run
      exact makes.fails _ _ ‹_›

theorem run_registerNew (compilation : Compilation) (library : Library) (node : Node)
    (make : Compile RuleKind) :
    compilation.run library (register fun id => do
        modify fun state => { state with numbers := (node.site, id) :: state.numbers }
        return { id, name := node.rule.name.map .ofText, kind := ← make }) =
      match (compilation.openAt node.site).run library make with
      | (.ok kind, after) =>
        (.ok (compilation.table.size + 1),
          after.put ⟨compilation.table.size + 1, node.rule.name.map .ofText, kind⟩)
      | (.error error, after) => (.error error, after) := by
  rw [run_register, run_bind, run_modify]
  dsimp only
  rw [run_bind, openAt, reserve]
  dsimp only
  generalize run _ library make = made
  obtain ⟨answer, after⟩ := made
  cases answer with
  | ok kind => rfl
  | error error => rfl

/-- A rule gets a number, and is clear once all that it refers to has one. -/
theorem tries_registerNew {node : Node} {make : Compile RuleKind}
    (written : sources.ruleAt? node.site = some node.rule)
    (makes : Tries sources (before.openAt node.site) make fails
      fun _ after => after.Clear sources node) :
    Tries sources before
      (register fun id => do
        modify fun state => { state with numbers := (node.site, id) :: state.numbers }
        return { id, name := node.rule.name.map .ofText, kind := ← make })
      fails fun _ after => after.number? node.site ≠ none := by
  constructor
  · intro id after run
    rw [run_registerNew] at run
    split at run
    · next kind middle made =>
      cases run
      obtain ⟨sensible, advances, clear⟩ := makes.succeeds kind middle made
      refine ⟨⟨sensible.host, sensible.included, sensible.extent, sensible.base⟩,
        (Advances.of_openAt written advances clear).trans (.of_numbers rfl), ?_⟩
      refine Retains.numbered advances.retains ?_
      rw [number?_openAt, if_pos rfl]
      exact nofun
    · cases run
  · intro error after run
    rw [run_registerNew] at run
    split at run
    · cases run
    · next error middle made =>
      cases run
      obtain ⟨sensible, retains, given⟩ := makes.fails error after made
      exact ⟨sensible, fun missing => retains_openAt _ _ (retains missing), given⟩

/-! ## Parts of rules -/

section Rules

/-- Compiling a rule for which everything is ready fails only by what is wrong ahead of it. -/
def Judges (sources : Sources) (depth : Nat) (compile : Surroundings → Node → Compile RuleId) :
    Prop :=
  ∀ before around node, before.Ready sources depth → sources.Situated around node →
    Tries sources before (compile around node) (before.Blames sources node)
      fun _ after => after.number? node.site ≠ none

variable {depth : Nat} {compile : Surroundings → Node → Compile RuleId}
  (judges : Judges sources depth compile) (wellFormed : sources.WellFormed)
  {origin : Compilation} {node target : Node} (fresh : origin.number? node.site = none)
  (inside : origin.Inside sources depth before)

include judges fresh inside in
/-- What is wrong ahead of a rule is wrong ahead of those that lead to it. -/
theorem tries_next {around : Surroundings} (next : sources.Next node target)
    (situated : sources.Situated around target) :
    Tries sources before (compile around target) (origin.Blames sources node)
      fun _ after => after.number? target.site ≠ none :=
  (judges before around target inside.toReady situated).weaken
    (fun _ blames => (blames.anti inside.retains).of_next fresh next) fun _ _ numbered => numbered

/-! ### Includes -/

include judges wellFormed fresh inside in
theorem tries_entry {scope : String} {grammar : LinkedGrammar}
    (linked : sources.linked? scope = some grammar) (around : Surroundings) (text name : String)
    (missing : grammar.repository.find? name = none →
      origin.Blames sources node (.unresolvedInclude text around.grammar))
    (found : ∀ target, grammar.repository.find? name = some target → sources.Next node target) :
    Tries sources before (entry compile around text grammar.surroundings name)
      (origin.Blames sources node) fun _ after => after.Meets (grammar.repository.find? name) := by
  unfold entry
  split
  · next target is =>
    exact (tries_next judges fresh inside (found target is)
      (wellFormed.situated_of_find? linked is)).weaken (fun _ blames => blames)
        fun _ _ numbered => ⟨target, is, numbered⟩
  · next unknown => exact .throw inside.sensible (missing unknown)

variable {grammar : LinkedGrammar}
  (linked : sources.linked? node.site.grammar = some grammar)

include judges wellFormed fresh inside linked in
theorem tries_entryOf (text other name : String)
    (missing : (sources.linked? other).bind (·.repository.find? name) = none →
      origin.Blames sources node (.unresolvedInclude text grammar.scopeName))
    (found : ∀ target, (sources.linked? other).bind (·.repository.find? name) = some target →
      sources.Next node target) :
    Tries sources before (entryOf compile grammar.surroundings text other name)
      (origin.Blames sources node)
      fun _ after => after.Meets ((sources.linked? other).bind (·.repository.find? name)) := by
  have base : grammar.surroundings.repository.find? LinkedGrammar.baseKey = some sources.base := by
    obtain ⟨definition, -, rfl⟩ := Option.map_eq_some_iff.mp linked
    exact LinkedGrammar.base?_ofDef definition (some sources.base)
  unfold entryOf
  rw [base]
  refine (tries_grammar? inside.sensible other).bind fun answer middle sensible advances is => ?_
  subst is
  cases linked' : sources.linked? other with
  | none =>
    rw [linked'] at missing
    exact .throw sensible (missing rfl)
  | some grammar' =>
    rw [linked'] at missing found
    exact tries_entry judges wellFormed fresh (inside.go sensible advances) linked' _ text name
      missing found

include judges wellFormed fresh inside linked in
theorem tries_resolve (text : String)
    (missing : sources.included? grammar text = none →
      origin.Blames sources node (.unresolvedInclude text grammar.scopeName))
    (found : ∀ target, sources.included? grammar text = some target → sources.Next node target) :
    Tries sources before (resolve compile grammar.surroundings text) (origin.Blames sources node)
      fun _ after => after.Meets (sources.included? grammar text) := by
  unfold resolve Sources.included?
  unfold Sources.included? at missing found
  cases target : IncludeTarget.ofText text with
  | self | base | entry =>
    rw [target] at missing found
    exact tries_entry judges wellFormed fresh inside linked _ text _ missing found
  | grammar | entryOf =>
    rw [target] at missing found
    exact tries_entryOf judges wellFormed fresh inside linked text _ _ missing found

/-! ### Entries -/

theorem tries_filterMapM {γ : Type} {f : α → Compile (Option γ)} {P : α → Compilation → Prop}
    (stays : ∀ a {before after : Compilation}, before.Retains after → P a before → P a after)
    {list : List α}
    (each : ∀ a ∈ list, ∀ middle, origin.Inside sources depth middle →
      Tries sources middle (f a) fails fun _ after => P a after)
    (inside : origin.Inside sources depth before) :
    Tries sources before (list.filterMapM f) fails fun _ after => ∀ a ∈ list, P a after := by
  induction list generalizing before with
  | nil => exact .pure inside.sensible nofun
  | cons a list ih =>
    obtain ⟨first, others⟩ := List.forall_mem_cons.mp each
    rw [List.filterMapM_cons]
    refine (first before inside).bind fun answer middle sensible advances known => ?_
    have rest : Tries sources middle (list.filterMapM f) fails
        fun _ after => ∀ b ∈ a :: list, P b after :=
      (ih others (inside.go sensible advances)).frame.weaken (fun _ fails => fails)
        fun _ _ given => List.forall_mem_cons.mpr ⟨stays a given.1 known, given.2⟩
    cases answer with
    | none => exact rest
    | some c => exact rest.bind fun made after sensible _ given => .pure sensible given

include judges wellFormed fresh inside linked in
/-- A list of patterns is compiled if all of them mean something, and these are compiled. -/
theorem tries_inner (written : sources.ruleAt? node.site = some node.rule) :
    Tries sources before (inner compile grammar.surroundings node.entries)
      (origin.Blames sources node)
      fun _ after => ∀ entry ∈ node.entries, after.Meets (sources.meant? entry) := by
  have unlessHollow (id : RuleId) {middle : Compilation} (sensible : middle.Sensible sources)
      {target? : Option Node} (meets : middle.Meets target?) :
      Tries sources middle
        (do if (← rule? id).any Rule.isHollow then return none else return some id)
        (origin.Blames sources node) fun _ after => after.Meets target? := by
    have asked : Tries sources middle (rule? id) (origin.Blames sources node)
        fun _ after => after = middle := .of_run rfl sensible (.refl _) rfl
    apply asked.bind
    rintro answer _ - - rfl
    split
    · exact .pure sensible meets
    · exact .pure sensible meets
  unfold inner
  refine (tries_filterMapM (P := fun entry after => after.Meets (sources.meant? entry))
    (fun _ _ _ retains meets => meets.mono retains) (fun entry mem middle inside => ?_)
    inside).bind fun ids after sensible _ given => .pure sensible given
  have leads (target : Node) (means : sources.meant? entry = some target) :
      sources.Next node target := .entry mem means
  have unresolved (text : String) (included : entry.rule.includeName = some text)
      (missing : sources.meant? entry = none) :
      origin.Blames sources node (.unresolvedInclude text node.site.grammar) :=
    ⟨node, .start fresh, .unresolved mem included missing⟩
  have linked' : sources.linked? entry.site.grammar = some grammar := by
    rw [Node.grammar_of_mem_entries mem]
    exact linked
  rw [← wellFormed.scopeName_of_linked? linked] at unresolved
  unfold Sources.meant? at leads unresolved ⊢
  cases included : entry.rule.includeName with
  | none =>
    rw [included] at leads
    have situated : sources.Situated grammar.surroundings entry := by
      refine ⟨wellFormed.written_of_meant? written mem ?_, .inr ⟨grammar, linked', rfl⟩⟩
      rw [Sources.meant?, included]
    refine (tries_next judges fresh inside (leads entry rfl) situated).bind
      fun id after sensible _ numbered => ?_
    exact unlessHollow id sensible ⟨entry, rfl, numbered⟩
  | some text =>
    simp only [included, linked', Option.bind_some] at leads unresolved ⊢
    refine (tries_resolve judges wellFormed fresh inside linked text
      (unresolved text rfl) leads).bind fun id after sensible _ meets => ?_
    exact unlessHollow id sensible meets

/-! ### Captures -/

include wellFormed fresh linked in
theorem tries_numbered {captures : List (String × Node)} (mem : captures ∈ node.captureLists)
    (sensible : before.Sensible sources) :
    Tries sources before (numbered grammar.surroundings captures) (origin.Blames sources node)
      fun answer after => after = before ∧ answer = groups captures ∧
        ∀ entry ∈ captures, isNumber entry.1 → Source.groupNumber entry.1.toList ≤ maxGroup := by
  have blames (entry : String × Node) (mem' : entry ∈ captures) (number : isNumber entry.1)
      (above : ¬ Source.groupNumber entry.1.toList ≤ maxGroup) :
      origin.Blames sources node (.captureOutOfRange entry.1 node.site.grammar) :=
    ⟨node, .start fresh, .outOfRange mem mem' number (Nat.lt_of_not_le above)⟩
  rw [← wellFormed.scopeName_of_linked? linked] at blames
  have all (entries : List (String × Node))
      (among : ∀ entry ∈ entries, entry ∈ captures ∧ isNumber entry.1) :
      Tries sources before
        (entries.mapM fun entry => do
          let group := Source.groupNumber entry.1.toList
          if group ≤ maxGroup then return (group, entry.2)
          else throw (.captureOutOfRange entry.1 grammar.surroundings.grammar))
        (origin.Blames sources node)
        fun answer after => after = before ∧
          answer = entries.map (fun entry => (Source.groupNumber entry.1.toList, entry.2)) ∧
            ∀ entry ∈ entries, Source.groupNumber entry.1.toList ≤ maxGroup := by
    induction entries with
    | nil => exact .pure sensible ⟨rfl, rfl, nofun⟩
    | cons entry entries ih =>
      obtain ⟨⟨mem', number⟩, others⟩ := List.forall_mem_cons.mp among
      rw [List.mapM_cons]
      dsimp only
      split
      · next le =>
        rw [pure_bind]
        refine (ih others).bind fun answer middle sensible _ given => .pure sensible ?_
        obtain ⟨same, rfl, le'⟩ := given
        exact ⟨same, rfl, List.forall_mem_cons.mpr ⟨le, le'⟩⟩
      · next above =>
        have refused : Tries sources before
            (throw (.captureOutOfRange entry.1 grammar.surroundings.grammar) : Compile (Nat × Node))
            (origin.Blames sources node) fun _ _ => False :=
          .throw sensible (blames entry mem' number above)
        exact refused.bind fun _ _ _ _ impossible => impossible.elim
  refine (all (captures.filter fun entry => isNumber entry.1) fun entry mem =>
    List.mem_filter.mp mem).weaken (fun _ blames => blames) fun answer after given => ?_
  obtain ⟨same, is, le⟩ := given
  exact ⟨same, is, fun entry mem number => le entry (List.mem_filter.mpr ⟨mem, number⟩)⟩

include judges fresh inside in
theorem tries_capture (around : Surroundings) (captured : Node)
    (next : captured.rule.hasPatterns → sources.Next node captured)
    (situated : sources.Situated around captured) :
    Tries sources before (capture compile around captured) (origin.Blames sources node)
      fun _ after => captured.rule.hasPatterns → after.number? captured.site ≠ none := by
  have registers (inner : Option RuleId) {middle : Compilation} (sensible : middle.Sensible sources)
      (known : captured.rule.hasPatterns → middle.number? captured.site ≠ none) :
      Tries sources middle
        (register fun id => return {
          id
          name := captured.rule.name.map .ofText
          kind := .capture (captured.rule.contentName.map .ofText) inner })
        (origin.Blames sources node)
        fun _ after => captured.rule.hasPatterns → after.number? captured.site ≠ none :=
    have reserved : middle.reserve.Sensible sources :=
      ⟨sensible.host, sensible.included, sensible.extent, sensible.base⟩
    (tries_register (.pure reserved trivial)).frame.weaken (fun _ blames => blames)
      fun _ after given again => Retains.numbered given.1 (known again)
  unfold capture
  split
  · next again =>
    rw [map_eq_pure_bind, bind_assoc]
    refine (tries_next judges fresh inside (next again) situated).bind
      fun id middle sensible _ numbered => ?_
    rw [pure_bind]
    exact registers _ sensible fun _ => numbered
  · next plain => exact registers none inside.sensible fun again => absurd again plain

include judges fresh inside in
theorem tries_foldlM_captures (around : Surroundings) {entries : List (Nat × Node)}
    (next : ∀ entry ∈ entries, entry.2.rule.hasPatterns → sources.Next node entry.2)
    (situated : ∀ entry ∈ entries, sources.Situated around entry.2)
    (rules : List (Option RuleId)) :
    Tries sources before
      (entries.foldlM (fun rules (group, captured) => do
        return rules.set group (some (← capture compile around captured))) rules)
      (origin.Blames sources node)
      fun _ after => ∀ entry ∈ entries, entry.2.rule.hasPatterns →
        after.number? entry.2.site ≠ none := by
  induction entries generalizing before rules with
  | nil => exact .pure inside.sensible nofun
  | cons entry entries ih =>
    obtain ⟨next, nexts⟩ := List.forall_mem_cons.mp next
    obtain ⟨place, places⟩ := List.forall_mem_cons.mp situated
    rw [List.foldlM_cons, bind_assoc]
    refine (tries_capture judges fresh inside around entry.2 next place).bind
      fun id middle sensible advances known => ?_
    rw [pure_bind]
    refine (ih (inside.go sensible advances) nexts places _).frame.weaken (fun _ blames => blames)
      fun _ after given => List.forall_mem_cons.mpr ⟨fun again => ?_, given.2⟩
    exact Retains.numbered given.1 (known again)

include judges wellFormed fresh inside linked in
theorem tries_matching (written : sources.ruleAt? node.site = some node.rule) (pattern : String)
    {captures : List (String × Node)} (mem : captures ∈ node.captureLists) :
    Tries sources before (matching compile grammar.surroundings pattern captures)
      (origin.Blames sources node) fun _ after => after.Admits captures := by
  have situated (key : String) (captured : Node) (mem' : (key, captured) ∈ captures) :
      sources.Situated grammar.surroundings captured := by
    refine ⟨wellFormed.written_of_capture written mem mem', .inr ⟨grammar, ?_, rfl⟩⟩
    rw [Node.grammar_of_mem_captureLists mem mem']
    exact linked
  unfold matching Compile.captures
  rw [bind_assoc]
  refine (tries_numbered wellFormed fresh linked mem inside.sensible).bind
    fun answer middle sensible advances given => ?_
  obtain ⟨rfl, rfl, le⟩ := given
  have among (entry : Nat × Node) (mem' : entry ∈ groups captures) :
      ∃ key, (key, entry.2) ∈ captures ∧ isNumber key := by
    obtain ⟨⟨key, captured⟩, numbered, rfl⟩ := List.mem_map.mp mem'
    obtain ⟨mem, number⟩ := List.mem_filter.mp numbered
    exact ⟨key, mem, number⟩
  refine (tries_foldlM_captures judges fresh inside grammar.surroundings (fun entry mem' => ?_)
    (fun entry mem' => ?_) _).bind fun rules after sensible _ known => .pure sensible ?_
  · obtain ⟨key, mem', number⟩ := among entry mem'
    exact .capture mem mem' number
  · obtain ⟨key, mem', -⟩ := among entry mem'
    exact situated key entry.2 mem'
  · intro key captured mem' number
    refine ⟨le _ mem' number, known (Source.groupNumber key.toList, captured) ?_⟩
    exact List.mem_map_of_mem (List.mem_filter.mpr ⟨mem', number⟩)

/-! ### Rules -/

include judges wellFormed fresh inside linked in
/-- After the pattern that opens a region come the other pattern and the inside. -/
theorem tries_opened (written : sources.ruleAt? node.site = some node.rule) (pattern : String)
    {opening captures : List (String × Node)} (lists : node.captureLists = [opening, captures])
    (opens : before.Admits opening) (make : Matching → Inner → RuleKind) :
    Tries sources before
      (do
        let other ← matching compile grammar.surroundings pattern captures
        return make other (← inner compile grammar.surroundings node.entries))
      (origin.Blames sources node) fun _ after => after.Clear sources node := by
  have mem : captures ∈ node.captureLists := by simp [lists]
  refine (tries_matching judges wellFormed fresh inside linked written pattern mem).frame.bind
    fun other middle sensible advances given => ?_
  refine (tries_inner judges wellFormed fresh (inside.go sensible advances) linked
    written).frame.bind fun made after sensible _ given' => .pure sensible ⟨given'.2, ?_⟩
  rw [lists]
  have opens := (opens.mono given.1).mono given'.1
  exact List.forall_mem_cons.mpr ⟨opens, List.forall_mem_singleton.mpr (given.2.mono given'.1)⟩

include judges wellFormed fresh inside linked in
/-- A rule is compiled if it has no fault, and all that it leads to is compiled. -/
theorem tries_kind (written : sources.ruleAt? node.site = some node.rule)
    (plain : node.rule.repository = none) :
    Tries sources before (kind compile grammar.surroundings node) (origin.Blames sources node)
      fun _ after => after.Clear sources node := by
  have matching' (pattern : String) {captures : List (String × Node)}
      (mem : captures ∈ node.captureLists) :=
    tries_matching judges wellFormed fresh inside linked written pattern mem
  unfold kind
  dsimp only
  cases matched : node.rule.matchPattern with
  | some pattern =>
    have lists := Node.captureLists_of_match matched
    refine (matching' pattern (by simp [lists])).bind fun made after sensible _ given =>
      .pure sensible ⟨?_, ?_⟩
    · rw [Node.entries_of_match matched]
      exact List.forall_mem_nil _
    · rw [lists]
      exact List.forall_mem_singleton.mpr given
  | none =>
    cases begins : node.rule.beginPattern with
    | none =>
      dsimp only
      rw [containerInner_eq plain matched begins]
      refine (tries_inner judges wellFormed fresh inside linked written).bind
        fun made after sensible _ given => .pure sensible ⟨given, ?_⟩
      rw [Node.captureLists_of_bare matched begins]
      exact List.forall_mem_nil _
    | some pattern =>
      rw [← Node.entries_of_begin matched begins]
      cases continues : node.rule.whilePattern with
      | some condition =>
        have lists := Node.captureLists_of_while matched begins continues
        refine (matching' pattern (by simp [lists])).bind fun made middle sensible advances given => ?_
        exact tries_opened judges wellFormed fresh (inside.go sensible advances) linked written
          condition lists given (.lines _ made)
      | none =>
        have lists := Node.captureLists_of_end matched begins continues
        refine (matching' pattern (by simp [lists])).bind fun made middle sensible advances given => ?_
        exact tries_opened judges wellFormed fresh (inside.go sensible advances) linked written
          _ lists given (.region _ made · node.rule.endPatternLast)

end Rules

/-- What a rule comes to, if it can be nested as deep as there are places without numbers. -/
theorem judges_rule (wellFormed : sources.WellFormed) (plain : sources.Plain) (depth : Nat) :
    Judges sources depth (rule depth) := by
  induction depth with
  | zero => exact fun _ _ _ ready => absurd ready.room (Nat.not_lt_zero _)
  | succ depth ih =>
    intro before around node ready situated
    have asked : Tries sources before (Compile.number? node.site) (before.Blames sources node)
        fun answer after => answer = before.number? node.site ∧ after = before :=
      .of_run rfl ready.sensible (.refl _) ⟨rfl, rfl⟩
    unfold rule registerAt
    refine asked.bind fun answer middle _ _ given => ?_
    obtain ⟨rfl, rfl⟩ := given
    cases known : middle.number? node.site with
    | some id =>
      refine .pure ready.sensible ?_
      rw [known]
      exact Option.some_ne_none id
    | none =>
      rcases situated.surroundings with rfl | ⟨grammar, linked, rfl⟩
      · exact absurd known ready.sensible.base
      · have room : sources.unnumbered (middle.openAt node.site) < depth :=
          Nat.lt_of_lt_of_le (Sources.unnumbered_openAt_lt situated.written known)
            (Nat.le_of_lt_succ ready.room)
        have inside : middle.Inside sources depth (middle.openAt node.site) :=
          ⟨⟨ready.sensible.openAt node.site, room⟩, retains_openAt middle node.site⟩
        exact tries_registerNew situated.written (tries_kind ih wellFormed known inside linked
          situated.written (plain _ (Sources.mem_rules_of_ruleAt? situated.written)))

end Compile

end ScopeTokenizer.Grammar
