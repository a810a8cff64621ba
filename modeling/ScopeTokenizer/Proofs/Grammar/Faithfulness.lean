import ScopeTokenizer.Proofs.Grammar.Scoping
import ScopeTokenizer.Proofs.Grammar.Underway

/-!
# Compiled grammars are faithful

If a grammar compiles, the rules that are reached and the places that have numbers are the same,
and each of these numbers is that of a rule that renders what is written at the place. This is so
however the grammars include one another. One lemma for each operation of compiling says that it
keeps a compilation on course, and what its answer has to do with the sources.
-/

namespace ScopeTokenizer.Grammar

open Pattern Scope Text

namespace Compile

open Compilation

variable {α β : Type} {sources : Sources} {before : Compilation}

/-! ## Leading on -/

/-- If compiling gives an answer, it leads from a compilation to another one that is on course, and
`post` holds of the answer there. -/
def Leads (sources : Sources) (before : Compilation) (compile : Compile α)
    (post : α → Compilation → Prop) : Prop :=
  ∀ a after, before.run sources.library compile = (.ok a, after) →
    after.OnCourse sources ∧ before.Extends after ∧ post a after

namespace Leads

variable {post wanted : α → Compilation → Prop}

theorem pure (course : before.OnCourse sources) {a : α} (given : post a before) :
    Leads sources before (Pure.pure a) post := by
  rintro _ _ ⟨⟩
  exact ⟨course, .refl _, given⟩

theorem throw (error : GrammarError) : Leads sources before (throw error : Compile α) post := by
  rintro _ _ ⟨⟩

theorem bind {first : Compile α} {next : α → Compile β} {last : β → Compilation → Prop}
    (start : Leads sources before first post)
    (rest : ∀ a middle, middle.OnCourse sources → before.Extends middle → post a middle →
      Leads sources middle (next a) last) :
    Leads sources before (first >>= next) last := by
  intro b after run
  rw [run_bind] at run
  split at run
  · next a middle run' =>
    obtain ⟨course, extended, given⟩ := start a middle run'
    obtain ⟨course', extended', last⟩ := rest a middle course extended given b after run
    exact ⟨course', extended.trans extended', last⟩
  · cases run

theorem weaken {compile : Compile α} (leads : Leads sources before compile post)
    (post : ∀ a after, post a after → wanted a after) : Leads sources before compile wanted := by
  intro a after run
  obtain ⟨course, extended, given⟩ := leads a after run
  exact ⟨course, extended, post a after given⟩

end Leads

/-! ## Grammars -/

theorem leads_grammar? (course : before.OnCourse sources) (scope : String) :
    Leads sources before (grammar? scope (some sources.base))
      fun answer _ => answer = sources.linked? scope := by
  have hostName : before.host.scopeName = sources.host.scopeName := by
    rw [course.host]
    rfl
  intro answer after run
  unfold grammar? at run
  rw [run_bind, run_get] at run
  dsimp only at run
  split at run
  · next grammar known =>
    cases run
    exact ⟨course, .refl _, (course.included known).symm⟩
  · split at run
    · next host =>
      cases run
      refine ⟨course, .refl _, ?_⟩
      rw [Sources.linked?, Sources.grammar?, if_pos (host.trans hostName), course.host]
      rfl
    · next other =>
      have found : sources.grammar? scope = sources.library.find? scope :=
        if_neg fun host => other (host.trans hostName.symm)
      rw [run_bind, run_read] at run
      dsimp only at run
      split at run
      · next unknown =>
        cases run
        refine ⟨course, .refl _, ?_⟩
        rw [Sources.linked?, found, unknown]
        rfl
      · next definition known =>
        cases run
        have linked : sources.linked? scope = some (.ofDef definition (some sources.base)) := by
          rw [Sources.linked?, found, known]
          rfl
        exact ⟨course.withIncluded linked _, ⟨.refl _, id, (Extends.refl before).filled⟩,
          linked.symm⟩

/-! ## Registering -/

/-- The rule of a capture is made once that is known by which it is read again. -/
theorem leads_registerCapture (course : before.OnCourse sources) {node : Node}
    {inner : Option RuleId}
    (is : inner = if node.rule.hasPatterns then before.number? node.site else none)
    (rereads : inner.isSome = node.rule.hasPatterns) :
    Leads sources before
      (register fun id => return {
        id
        name := node.rule.name.map .ofText
        kind := .capture (node.rule.contentName.map .ofText) inner })
      fun id after => after.RendersCapture node id := by
  intro id after run
  obtain ⟨rfl, rule, middle, made, rfl⟩ := run_register_eq_ok run
  cases made
  have positive : ∀ ref ∈ inner.toList, 0 < ref := by
    intro ref mem
    have some : inner = some ref := Option.mem_toList.mp mem
    rw [some] at is
    split at is
    · exact (course.range is.symm).1
    · cases is
  have unused (site : Site) : before.reserve.number? site ≠ some (before.table.size + 1) :=
    fun number => Nat.lt_irrefl _ (course.range number).2
  have course' := course.reserve.put ⟨before.table.size + 1, node.rule.name.map .ofText,
      .capture (node.rule.contentName.map .ofText) inner⟩ (Nat.succ_pos _) (size_reserve_le before)
    (rule?_reserve_size before) ⟨rfl, positive⟩ fun site number => absurd number (unused site)
  refine ⟨course'.1, (Extends.refl before.reserve).put before.table.grows_reserve
    (RuleTable.size_reserve _) id _ rfl, inner, ?_, is, rereads⟩
  exact RuleTable.rule?_put_self _ (Nat.succ_pos _) (size_reserve_le before)

/-- A place gets a number, and then its rule. -/
theorem leads_registerNew {node : Node} {make : Compile RuleKind}
    (reached : sources.Reached node) (fresh : before.number? node.site = none)
    (makes : Leads sources (before.openAt node.site) make
      fun kind after => after.RendersKind sources node kind) :
    Leads sources before
      (register fun id => do
        modify fun state => { state with numbers := (node.site, id) :: state.numbers }
        return { id, name := node.rule.name.map .ofText, kind := ← make })
      fun id after => after.number? node.site = some id := by
  intro id after run
  obtain ⟨rfl, rule, middle, made, rfl⟩ := run_register_eq_ok run
  obtain ⟨⟨⟩, _, noted, made⟩ := run_bind_eq_ok made
  cases noted
  obtain ⟨kind, middle, making, made⟩ := run_bind_eq_ok made
  cases made
  obtain ⟨course', extended, renders⟩ := makes kind middle making
  have number : middle.number? node.site = some (before.table.size + 1) := by
    apply extended.number?
    rw [number?_openAt, if_pos rfl]
  have le : before.table.size + 1 ≤ middle.table.size :=
    Nat.le_trans (size_reserve_le before) extended.table.size_le
  have empty : middle.table.rule? (before.table.size + 1) = none :=
    (extended.table.kept _ (size_reserve_le before)).trans (rule?_reserve_size before)
  have rendered : middle.Renders sources node
      ⟨before.table.size + 1, node.rule.name.map .ofText, kind⟩ := ⟨rfl, renders⟩
  have course'' := course'.put _ (Nat.succ_pos _) le empty
    (rendered.sound fun site id number => (course'.range number).1)
    fun site number' => ⟨node, reached, course'.apart number number', rendered⟩
  exact ⟨course''.1, extended.put before.table.grows_reserve (RuleTable.size_reserve _)
    (number?_openAt_of_fresh fresh) _ rfl, number⟩

/-! ## Parts of rules -/

/-- What is known of each value that was made stays known while others are made. -/
theorem leads_filterMapM {γ : Type} {f : α → Compile (Option γ)} {P : α → γ → Compilation → Prop}
    (course : before.OnCourse sources)
    (stays : ∀ a c {before after : Compilation}, before.Keeps after → P a c before → P a c after)
    {list : List α}
    (each : ∀ a ∈ list, ∀ before, before.OnCourse sources →
      Leads sources before (f a) fun answer after => ∃ c, answer = some c ∧ P a c after) :
    Leads sources before (list.filterMapM f) fun made after =>
      List.Forall₂ (fun a c => P a c after) list made := by
  induction list generalizing before with
  | nil => exact .pure course .nil
  | cons a list ih =>
    obtain ⟨first, others⟩ := List.forall_mem_cons.mp each
    rw [List.filterMapM_cons]
    apply Leads.bind (first before course)
    intro answer middle course _ given
    obtain ⟨c, is, given⟩ := given
    subst is
    apply Leads.bind (ih course others)
    intro made after course extended rest
    exact .pure course (.cons (stays a c extended.keeps given) rest)

/-- From any compilation on course, compiling a rule that is reached leads to the number of its
place. -/
def Numbers (sources : Sources) (compile : Surroundings → Node → Compile RuleId) : Prop :=
  ∀ before around node, before.OnCourse sources → sources.Placed around node →
    Leads sources before (compile around node) fun id after => after.number? node.site = some id

section Rules

variable {compile : Surroundings → Node → Compile RuleId} (numbers : Numbers sources compile)
  (wellFormed : sources.WellFormed) (course : before.OnCourse sources) {scope : String}
  {grammar : LinkedGrammar} (linked : sources.linked? scope = some grammar)

include numbers wellFormed course linked in
theorem leads_entry (around : Surroundings) (text name : String)
    (reached : ∀ target, grammar.repository.find? name = some target → sources.Reached target) :
    Leads sources before (entry compile around text grammar.surroundings name)
      (NumberOf (grammar.repository.find? name)) := by
  unfold entry
  split
  · next target found =>
    have placed : sources.Placed grammar.surroundings target := by
      refine ⟨reached target found, (wellFormed.of_find? linked found).2.imp_right ?_⟩
      exact fun linked => ⟨grammar, linked, rfl⟩
    exact (numbers before _ _ course placed).weaken fun id after number => ⟨target, found, number⟩
  · exact .throw _

include numbers wellFormed course linked in
theorem leads_entryOf (text other name : String)
    (reached : ∀ target, (sources.linked? other).bind (·.repository.find? name) = some target →
      sources.Reached target) :
    Leads sources before (entryOf compile grammar.surroundings text other name)
      (NumberOf ((sources.linked? other).bind (·.repository.find? name))) := by
  have base : grammar.surroundings.repository.find? LinkedGrammar.baseKey = some sources.base := by
    obtain ⟨definition, -, rfl⟩ := Option.map_eq_some_iff.mp linked
    exact LinkedGrammar.base?_ofDef definition (some sources.base)
  unfold entryOf
  rw [base]
  apply Leads.bind (leads_grammar? course other)
  intro answer middle course _ is
  subst is
  cases linked' : sources.linked? other with
  | none => exact .throw _
  | some grammar' =>
    rw [linked'] at reached
    exact leads_entry numbers wellFormed course linked' _ text name reached

include numbers wellFormed course linked in
/-- Compiling what an include refers to leads to the number of what it means. -/
theorem leads_resolve (text : String)
    (reached : ∀ target, sources.included? grammar text = some target → sources.Reached target) :
    Leads sources before (resolve compile grammar.surroundings text)
      (NumberOf (sources.included? grammar text)) := by
  unfold resolve Sources.included?
  unfold Sources.included? at reached
  cases target : IncludeTarget.ofText text with
  | self | base | entry =>
    rw [target] at reached
    exact leads_entry numbers wellFormed course linked _ text _ reached
  | grammar | entryOf =>
    rw [target] at reached
    exact leads_entryOf numbers wellFormed course linked text _ _ reached

/-- No rule is left out. -/
theorem leads_unlessHollow (course : before.OnCourse sources) (id : RuleId) :
    Leads sources before (do if (← rule? id).any Rule.isHollow then return none else return some id)
      fun answer after => answer = some id ∧ after = before := by
  have solid : (before.table.rule? id).any Rule.isHollow = false := by
    cases found : before.table.rule? id with
    | none => rfl
    | some rule => simp [Rule.isHollow, (course.sound found).1]
  intro answer after run
  unfold rule? at run
  rw [run_bind, run_bind, run_get] at run
  simp only [run_pure, solid] at run
  cases run
  exact ⟨course, .refl _, rfl, rfl⟩

include numbers wellFormed course linked in
/-- Compiling a list of patterns leads to the numbers of what they mean. -/
theorem leads_inner (entries : List Node)
    (here : ∀ entry ∈ entries, entry.site.grammar = scope)
    (reached : ∀ entry ∈ entries, ∀ target, sources.meant? entry = some target →
      sources.Reached target) :
    Leads sources before (inner compile grammar.surroundings entries) fun made after =>
      ∃ ids, made = ⟨ids, false⟩ ∧ after.RendersEntries sources entries ids := by
  have stays (entry : Node) (id : RuleId) {before after : Compilation}
      (keeps : before.Keeps after) (number : NumberOf (sources.meant? entry) id before) :
      NumberOf (sources.meant? entry) id after := by
    obtain ⟨target, means, number⟩ := number
    exact ⟨target, means, keeps.number? number⟩
  unfold inner
  apply Leads.bind (leads_filterMapM (P := fun entry => NumberOf (sources.meant? entry)) course
    stays _)
  · intro ids after course _ renders
    refine .pure course ⟨ids, ?_, renders⟩
    simp [renders.length_eq]
  · intro entry mem middle course
    have linked' : sources.linked? entry.site.grammar = some grammar := by
      rw [here entry mem]
      exact linked
    have finish {target? : Option Node} {make : Compile RuleId}
        (makes : Leads sources middle make (NumberOf target?)) :
        Leads sources middle
          (make >>= fun id => do
            if (← rule? id).any Rule.isHollow then return none else return some id)
          fun answer after => ∃ id, answer = some id ∧ NumberOf target? id after := by
      apply makes.bind
      intro id after course _ number
      apply (leads_unlessHollow course id).weaken
      intro answer last kept
      exact ⟨id, kept.1, kept.2 ▸ number⟩
    have due := reached entry mem
    unfold Sources.meant? at due ⊢
    cases included : entry.rule.includeName with
    | none =>
      rw [included] at due
      have placed : sources.Placed grammar.surroundings entry :=
        ⟨due entry rfl, .inr ⟨grammar, linked', rfl⟩⟩
      exact finish ((numbers middle _ _ course placed).weaken
        fun id after number => ⟨entry, rfl, number⟩)
    | some text =>
      rw [included] at due
      simp only [linked', Option.bind_some] at due ⊢
      exact finish (leads_resolve numbers wellFormed course linked text due)

/-! ### Captures -/

theorem leads_numbered (course : before.OnCourse sources) (around : Surroundings)
    (captures : List (String × Node)) :
    Leads sources before (numbered around captures)
      fun answer after => answer = groups captures ∧ after = before := by
  obtain ⟨answer, run, given⟩ := run_numbered before sources.library around captures
  intro made after run'
  cases run.symm.trans run'
  exact ⟨course, .refl _, given made rfl, rfl⟩

include numbers course in
theorem leads_capture (around : Surroundings) (node : Node)
    (placed : node.rule.hasPatterns → sources.Placed around node) :
    Leads sources before (capture compile around node)
      fun id after => after.RendersCapture node id := by
  unfold capture
  split
  · next again =>
    rw [map_eq_pure_bind, bind_assoc]
    apply Leads.bind (numbers before around node course (placed again))
    intro id middle course _ number
    rw [pure_bind]
    apply leads_registerCapture course
    · rw [if_pos again, number]
    · rw [again]
      rfl
  · next plain =>
    apply leads_registerCapture course
    · rw [if_neg plain]
    · simpa using plain

/-- One more rule of a capture takes the place of those with the same number. -/
theorem rendersGroups_set {after : Compilation} {groups : List (Nat × Node)}
    {rules : List (Option RuleId)} (renders : after.RendersGroups groups rules) {group : Nat}
    {node : Node} {id : RuleId} (capture : after.RendersCapture node id)
    (inside : group < rules.length) :
    after.RendersGroups (groups ++ [(group, node)]) (rules.set group (some id)) := by
  have last (other : Nat) : (groups ++ [(group, node)]).reverse.lookup other =
      if other = group then some node else groups.reverse.lookup other := by
    rw [List.reverse_append, List.reverse_singleton, List.singleton_append, List.lookup_cons]
    split
    · next same => rw [if_pos (beq_iff_eq.mp same)]
    · next apart => rw [if_neg (by simpa using apart)]
  constructor
  · intro other kept is
    rw [last] at is
    split at is
    · next same =>
      cases is
      rw [same, List.getElem?_set_self inside]
      exact ⟨id, rfl, capture⟩
    · next apart =>
      rw [List.getElem?_set_ne (Ne.symm apart)]
      exact renders.taken other kept is
  · intro other is
    rw [last] at is
    split at is
    · cases is
    · next apart =>
      rw [List.getElem?_set_ne (Ne.symm apart)]
      exact renders.empty other is
  · intro entry mem again
    rcases List.mem_append.mp mem with mem | mem
    · exact renders.reread entry mem again
    · obtain rfl := List.mem_singleton.mp mem
      obtain ⟨inner, -, is, rereads⟩ := capture
      rw [if_pos again] at is
      rw [← is, rereads]
      exact again

/-- Captures are compiled one after the other. -/
theorem leads_foldlM_captures (numbers : Numbers sources compile)
    (course : before.OnCourse sources) (around : Surroundings)
    {done : List (Nat × Node)} {rules : List (Option RuleId)}
    (renders : before.RendersGroups done rules) {rest : List (Nat × Node)}
    (inside : ∀ entry ∈ rest, entry.1 < rules.length)
    (placed : ∀ entry ∈ rest, entry.2.rule.hasPatterns → sources.Placed around entry.2) :
    Leads sources before
      (rest.foldlM (fun rules (group, node) => do
        return rules.set group (some (← capture compile around node))) rules)
      fun made after => made.length = rules.length ∧ after.RendersGroups (done ++ rest) made := by
  induction rest generalizing before done rules with
  | nil => exact .pure course ⟨rfl, (List.append_nil done).symm ▸ renders⟩
  | cons entry rest ih =>
    obtain ⟨first, others⟩ := List.forall_mem_cons.mp inside
    obtain ⟨again, later⟩ := List.forall_mem_cons.mp placed
    rw [List.foldlM_cons, bind_assoc]
    apply Leads.bind (leads_capture numbers course around entry.2 again)
    intro id middle course extended capture
    rw [pure_bind]
    have length : (rules.set entry.1 (some id)).length = rules.length := List.length_set
    have next := rendersGroups_set (extended.keeps.rendersGroups renders) capture first
    refine (ih course next (fun entry mem => length ▸ others entry mem) later).weaken
      fun made after given => ⟨given.1.trans length, ?_⟩
    simpa using given.2

theorem lt_foldl_max (entries : List (Nat × Node)) (size : Nat) :
    size ≤ entries.foldl (fun size entry => max size (entry.1 + 1)) size ∧
      ∀ entry ∈ entries,
        entry.1 < entries.foldl (fun size entry => max size (entry.1 + 1)) size := by
  induction entries generalizing size with
  | nil => exact ⟨Nat.le_refl _, nofun⟩
  | cons first entries ih =>
    obtain ⟨above, each⟩ := ih (max size (first.1 + 1))
    rw [List.foldl_cons]
    refine ⟨by omega, List.forall_mem_cons.mpr ⟨by omega, each⟩⟩

include numbers course in
theorem leads_captures (around : Surroundings) (captures : List (String × Node))
    (placed : ∀ key node, (key, node) ∈ captures → isNumber key → node.rule.hasPatterns →
      sources.Placed around node) :
    Leads sources before (Compile.captures compile around captures)
      fun rules after => after.RendersCaptures captures rules := by
  unfold Compile.captures
  apply Leads.bind (leads_numbered course around captures)
  intro answer middle _ _ given
  obtain ⟨rfl, rfl⟩ := given
  have none : middle.RendersGroups [] (List.replicate ((groups captures).foldl
      (fun size entry => max size (entry.1 + 1)) 0) none) := by
    constructor
    · exact nofun
    · intro group _
      rw [List.getElem?_replicate]
      split <;> rfl
    · exact nofun
  refine (leads_foldlM_captures numbers course around none ?_ ?_).weaken ?_
  · rw [List.length_replicate]
    exact (lt_foldl_max _ _).2
  · intro entry mem again
    obtain ⟨⟨key, node⟩, numbered, rfl⟩ := List.mem_map.mp mem
    obtain ⟨among, number⟩ := List.mem_filter.mp numbered
    exact placed key node among number again
  · intro rules after given
    exact ⟨given.2, given.1.trans List.length_replicate⟩

include numbers course in
theorem leads_matching (around : Surroundings) (pattern : String)
    (captures : List (String × Node))
    (placed : ∀ key node, (key, node) ∈ captures → isNumber key → node.rule.hasPatterns →
      sources.Placed around node) :
    Leads sources before (matching compile around pattern captures)
      fun made after => ∃ rules, made = ⟨.ofText pattern, rules⟩ ∧
        after.RendersCaptures captures rules := by
  apply Leads.bind (leads_captures numbers course around captures placed)
  intro rules after course _ renders
  exact .pure course ⟨rules, rfl, renders⟩

/-! ### Rules -/

/-- Without named rules of its own, a container is compiled as its entries are. -/
theorem containerInner_eq {node : Node} (plain : node.rule.repository = none)
    (matchless : node.rule.matchPattern = none) (bare : node.rule.beginPattern = none)
    (around : Surroundings) :
    containerInner compile around node = inner compile around node.entries := by
  rw [containerInner_entries matchless bare, Node.extend, plain]

include numbers course in
/-- The captures of a rule are compiled in the surroundings of its grammar. -/
theorem leads_ownMatching {node : Node} (reached : sources.Reached node)
    (linked : sources.linked? node.site.grammar = some grammar) (pattern : String)
    {captures : List (String × Node)} (mem : captures ∈ node.captureLists) :
    Leads sources before (matching compile grammar.surroundings pattern captures)
      fun made after => ∃ rules, made = ⟨.ofText pattern, rules⟩ ∧
        after.RendersCaptures captures rules := by
  apply leads_matching numbers course
  intro key captured mem' number again
  refine ⟨.capture reached mem mem' number again, .inr ⟨grammar, ?_, rfl⟩⟩
  rw [Node.grammar_of_mem_captureLists mem mem']
  exact linked

include numbers wellFormed course in
/-- So are its entries. -/
theorem leads_ownInner {node : Node} (reached : sources.Reached node)
    (linked : sources.linked? node.site.grammar = some grammar) :
    Leads sources before (inner compile grammar.surroundings node.entries) fun made after =>
      ∃ ids, made = ⟨ids, false⟩ ∧ after.RendersEntries sources node.entries ids :=
  leads_inner numbers wellFormed course linked node.entries
    (fun _ mem => Node.grammar_of_mem_entries mem)
    fun _ mem _ means => .entry reached mem means

include numbers wellFormed course in
/-- After the pattern that opens a region come the other pattern and the inside. -/
theorem leads_opened {node : Node} (reached : sources.Reached node)
    (linked : sources.linked? node.site.grammar = some grammar)
    {opening : List (String × Node)} {opened : List (Option RuleId)}
    (opens : before.RendersCaptures opening opened) (pattern : String)
    {captures : List (String × Node)} (mem : captures ∈ node.captureLists)
    (make : Matching → Inner → RuleKind) :
    Leads sources before
      (do
        let other ← matching compile grammar.surroundings pattern captures
        return make other (← inner compile grammar.surroundings node.entries))
      fun kind after => ∃ rules ids, kind = make ⟨.ofText pattern, rules⟩ ⟨ids, false⟩ ∧
        after.RendersCaptures opening opened ∧ after.RendersCaptures captures rules ∧
        after.RendersEntries sources node.entries ids := by
  apply Leads.bind (leads_ownMatching numbers course reached linked pattern mem)
  intro other middle course early given
  obtain ⟨rules, rfl, others⟩ := given
  apply Leads.bind (leads_ownInner numbers wellFormed course reached linked)
  intro made after course late given
  obtain ⟨ids, rfl, renders⟩ := given
  exact .pure course ⟨rules, ids, rfl, (early.trans late).keeps.rendersCaptures opens,
    late.keeps.rendersCaptures others, renders⟩

include numbers wellFormed course in
/-- What a rule does is compiled to what renders it. -/
theorem leads_kind {node : Node} (reached : sources.Reached node)
    (plain : node.rule.repository = none)
    (linked : sources.linked? node.site.grammar = some grammar) :
    Leads sources before (kind compile grammar.surroundings node)
      fun kind after => after.RendersKind sources node kind := by
  unfold kind
  dsimp only
  cases matched : node.rule.matchPattern with
  | some pattern =>
    have lists := Node.captureLists_of_match matched
    apply Leads.bind (leads_ownMatching numbers course reached linked pattern (by simp [lists]))
    intro made after course _ given
    obtain ⟨rules, rfl, renders⟩ := given
    exact .pure course (.single matched renders)
  | none =>
    cases begins : node.rule.beginPattern with
    | none =>
      dsimp only
      rw [containerInner_eq plain matched begins]
      apply Leads.bind (leads_ownInner numbers wellFormed course reached linked)
      intro made after course _ given
      obtain ⟨ids, rfl, renders⟩ := given
      exact .pure course (.container matched begins renders)
    | some pattern =>
      rw [← Node.entries_of_begin matched begins]
      cases continues : node.rule.whilePattern with
      | some condition =>
        have lists := Node.captureLists_of_while matched begins continues
        apply Leads.bind (leads_ownMatching numbers course reached linked pattern (by simp [lists]))
        intro opening middle course _ given
        obtain ⟨rules, rfl, opens⟩ := given
        apply (leads_opened numbers wellFormed course reached linked opens condition
          (by simp [lists]) (.lines _ _)).weaken
        intro made after given
        obtain ⟨conditions, ids, rfl, opens, holds, renders⟩ := given
        exact .lines matched begins continues opens holds renders
      | none =>
        have lists := Node.captureLists_of_end matched begins continues
        apply Leads.bind (leads_ownMatching numbers course reached linked pattern (by simp [lists]))
        intro opening middle course _ given
        obtain ⟨rules, rfl, opens⟩ := given
        apply (leads_opened numbers wellFormed course reached linked opens _ (by simp [lists])
          (.region _ _ · node.rule.endPatternLast)).weaken
        intro made after given
        obtain ⟨closings, ids, rfl, opens, closes, renders⟩ := given
        exact .region matched begins continues opens closes renders

end Rules

theorem leads_registerAt (course : before.OnCourse sources) {node : Node}
    {make : RuleId → Compile Rule}
    (makes : before.number? node.site = none → Leads sources before
      (register fun id => do
        modify fun state => { state with numbers := (node.site, id) :: state.numbers }
        make id)
      fun id after => after.number? node.site = some id) :
    Leads sources before (registerAt node.site make)
      fun id after => after.number? node.site = some id := by
  have asked : Leads sources before (Compile.number? node.site)
      fun answer after => answer = before.number? node.site ∧ after = before := by
    intro answer after run
    cases run
    exact ⟨course, .refl _, rfl, rfl⟩
  unfold registerAt
  apply asked.bind
  intro answer middle _ _ given
  obtain ⟨rfl, rfl⟩ := given
  cases known : middle.number? node.site with
  | some id => exact .pure course known
  | none => exact makes known

/-- Compiling a rule that is reached leads to the number of its place, however deep it goes. -/
theorem numbers_rule (wellFormed : sources.WellFormed) (plain : sources.Plain) (depth : Nat) :
    Numbers sources (rule depth) := by
  induction depth with
  | zero =>
    intro before around node course placed
    apply leads_registerAt course
    intro _ id after run
    obtain ⟨-, rule, middle, made, -⟩ := run_register_eq_ok run
    obtain ⟨⟨⟩, _, -, made⟩ := run_bind_eq_ok made
    cases made
  | succ depth ih =>
    intro before around node course placed
    apply leads_registerAt course
    intro fresh
    rcases placed.surroundings with rfl | ⟨grammar, linked, rfl⟩
    · cases fresh.symm.trans course.base
    · have written := Sources.mem_rules_of_ruleAt? (placed.reached.written wellFormed)
      exact leads_registerNew placed.reached fresh
        (leads_kind ih wellFormed (course.openAt placed.reached fresh) placed.reached
          (plain _ written) linked)

end Compile

namespace Compilation

/-! ## Compiled grammars -/

/-- A compilation in which exactly the rules that are reached have numbers, each its own, and are
rendered by the rules with these numbers. The numbers go from that of the root, which is 1, to the
size of the table. -/
structure FaithfulTo (compilation : Compilation) (sources : Sources) (root : RuleId) : Prop where
  root_eq : root = 1
  base : compilation.number? sources.base.site = some root
  numbered : ∀ site, (∃ id, compilation.number? site = some id) ↔
    ∃ node, sources.Reached node ∧ node.site = site
  apart : ∀ {site other id}, compilation.number? site = some id →
    compilation.number? other = some id → site = other
  filled : ∀ id, 0 < id → id ≤ compilation.table.size →
    ∃ rule, compilation.table.rule? id = some rule ∧ rule.id = id
  references : ∀ id rule, compilation.table.rule? id = some rule → ∀ ref ∈ rule.references,
    ∃ other, compilation.table.rule? ref = some other
  complete : ∀ id rule, compilation.table.rule? id = some rule → rule.inner.incomplete = false
  renders : ∀ node, sources.Reached node → ∃ id rule, compilation.number? node.site = some id ∧
    compilation.table.rule? id = some rule ∧ compilation.Renders sources node rule

variable {sources : Sources} {compilation : Compilation} {root : RuleId}

/-- If no place is left open, all that is reached is rendered. -/
theorem OnCourse.exists_renders (course : compilation.OnCourse sources)
    (wellFormed : sources.WellFormed)
    (filled : ∀ id, 0 < id → id ≤ compilation.table.size →
      ∃ rule, compilation.table.rule? id = some rule) {node : Node}
    (reached : sources.Reached node) : ∃ id rule, compilation.number? node.site = some id ∧
      compilation.table.rule? id = some rule ∧ compilation.Renders sources node rule := by
  have rendered {node : Node} (reached : sources.Reached node) {id : RuleId}
      (number : compilation.number? node.site = some id) : ∃ id rule,
      compilation.number? node.site = some id ∧ compilation.table.rule? id = some rule ∧
        compilation.Renders sources node rule := by
    obtain ⟨rule, found⟩ := filled id (course.range number).1 (course.range number).2
    obtain ⟨other, reached', here, renders⟩ := course.renders number
    obtain rfl := reached'.eq_of_site_eq reached wellFormed here
    exact ⟨id, rule, number, found, renders rule found⟩
  induction reached with
  | base => exact rendered .base course.base
  | entry reached mem means ih =>
    obtain ⟨id, rule, -, -, renders⟩ := ih
    obtain ⟨number, target, means', number_eq⟩ := renders.kind.exists_of_mem_entries mem
    cases means.symm.trans means'
    exact rendered (.entry reached mem means) number_eq
  | @capture node captured captures key reached mem mem' number again ih =>
    obtain ⟨id, rule, -, -, renders⟩ := ih
    obtain ⟨rules, captures⟩ := renders.kind.exists_of_mem_captureLists mem
    have group : (Source.groupNumber key.toList, captured) ∈ groups _ :=
      List.mem_map_of_mem (List.mem_filter.mpr ⟨mem', number⟩)
    obtain ⟨id, number_eq⟩ := Option.isSome_iff_exists.mp (captures.reread _ group again)
    exact rendered (.capture reached mem mem' number again) number_eq

/-- Compiling the rule that stands for a grammar leads from nothing to a compilation on course. -/
theorem leads_compileRoot (wellFormed : sources.WellFormed) (plain : sources.Plain)
    (run : (start sources.host).compileRoot sources.library = (.ok root, compilation)) :
    compilation.OnCourse sources ∧ (start sources.host).Extends compilation ∧
      compilation.number? sources.base.site = some root := by
  have linked : sources.linked? sources.base.site.grammar =
      some (.ofDef sources.host (some sources.base)) := by
    have host : sources.grammar? sources.base.site.grammar = some sources.host := if_pos rfl
    rw [Sources.linked?, host]
    rfl
  have fresh : (start sources.host).number? sources.base.site = none := rfl
  have first : (start sources.host).table.size = 0 := rfl
  have course : ((start sources.host).openAt sources.base.site).OnCourse sources := by
    have own {site : Site} {id : RuleId}
        (number : ((start sources.host).openAt sources.base.site).number? site = some id) :
        site = sources.base.site ∧ id = 1 := by
      rw [number?_openAt] at number
      split at number
      · next is => exact ⟨is, (Option.some.inj number).symm⟩
      · cases number
    have nothing (id : RuleId) :
        ((start sources.host).openAt sources.base.site).table.rule? id = none := by
      rw [openAt, reserve, RuleTable.rule?_reserve]
      cases id <;> rfl
    constructor
    · rfl
    · intro scope grammar known
      cases known
    · rw [number?_openAt, if_pos rfl, first]
    · intro site id number
      obtain ⟨-, rfl⟩ := own number
      exact ⟨Nat.one_pos, size_reserve_le (start sources.host)⟩
    · intro site other id number number'
      exact (own number).1.trans (own number').1.symm
    · intro site id number
      obtain ⟨rfl, rfl⟩ := own number
      exact ⟨sources.base, .base, rfl, fun rule found => absurd found (by simp [nothing])⟩
    · intro id rule found
      cases (nothing id).symm.trans found
  have host : (start sources.host).host.self? = some sources.base :=
    LinkedGrammar.self?_ofDef sources.host none
  unfold compileRoot Compile.root Compilation.depth at run
  rw [run_bind, run_get] at run
  simp only [host] at run
  rw [Compile.rule, run_registerAt _ _ rfl] at run
  exact Compile.leads_registerNew .base fresh
    (Compile.leads_kind (Compile.numbers_rule wellFormed plain _) wellFormed course .base
      (plain _ (Sources.mem_rules_of_ruleAt? Sources.ruleAt?_base)) linked) _ _ run

/-- If a grammar compiles, it is compiled faithfully. -/
theorem compileRoot_faithful (wellFormed : sources.WellFormed) (plain : sources.Plain)
    (run : (start sources.host).compileRoot sources.library = (.ok root, compilation)) :
    compilation.FaithfulTo sources root := by
  obtain ⟨course, extended, number⟩ := leads_compileRoot wellFormed plain run
  obtain ⟨closed, -⟩ := compileRoot_spec run
  have filled : ∀ id, 0 < id → id ≤ compilation.table.size →
      ∃ rule, compilation.table.rule? id = some rule := extended.filled
  have renders (node : Node) (reached : sources.Reached node) :=
    course.exists_renders wellFormed filled reached
  constructor
  · exact Option.some.inj (number.symm.trans course.base)
  · exact number
  · intro site
    constructor
    · intro numbered
      obtain ⟨id, number⟩ := numbered
      obtain ⟨node, reached, here, -⟩ := course.renders number
      exact ⟨node, reached, here⟩
    · intro reached
      obtain ⟨node, reached, rfl⟩ := reached
      obtain ⟨id, rule, number, -⟩ := renders node reached
      exact ⟨id, number⟩
  · exact course.apart
  · intro id positive le
    obtain ⟨rule, found⟩ := filled id positive le
    exact ⟨rule, found, closed.table.id_eq id rule found⟩
  · intro id rule found ref mem
    exact filled ref ((course.sound found).2 ref mem) (closed.table.references_le id rule found ref mem)
  · intro id rule found
    exact (course.sound found).1
  · exact renders

/-- Two grammars that include one another, with rules that lead back to themselves. -/
def entwined : Sources where
  host :=
    { scopeName := "A"
      patterns := [
        { includeName := some "B" },
        { matchPattern := some "(a)"
          captures := [
            ("1", { name := some "letter", patterns := [{ includeName := some "#group" }] }),
            ("left", { name := some "unused" })] }]
      repository := [
        ("group",
          { beginPattern := some "<"
            endPattern := some ">"
            patterns := [{ includeName := some "$self" }, { includeName := some "B#word" }] })] }
  library := ({} : Library).add
    { scopeName := "B"
      patterns := [{ includeName := some "$base" }, { includeName := some "A#group" }]
      repository := [
        ("letter", { matchPattern := some "b" }),
        ("word", { includeName := some "#letter" })] }

theorem compileRoot_faithful_entwined :
    ∃ root compilation, entwined.WellFormed ∧ entwined.Plain ∧
      (start entwined.host).compileRoot entwined.library = (.ok root, compilation) ∧
      compilation.numbers.length = 7 ∧ compilation.table.size = 8 ∧
      compilation.FaithfulTo entwined root := by
  have keys : ∀ rule ∈ entwined.rules, ∀ field ∈ [CaptureField.any, .begin, .end, .while],
      ((rule.capturesIn field).map Prod.fst).Nodup := by decide +kernel
  have wellFormed : entwined.WellFormed := by
    refine ⟨by decide +kernel, fun rule mem field => keys rule mem field ?_⟩
    cases field <;> decide
  have plain : entwined.Plain := by
    intro rule
    revert rule
    decide +kernel
  have counts : (match (start entwined.host).compileRoot entwined.library with
      | (.ok _, compilation) => (compilation.numbers.length, compilation.table.size)
      | _ => (0, 0)) = (7, 8) := by decide +kernel
  split at counts
  · next root compilation run =>
    exact ⟨root, compilation, wellFormed, plain, run, congrArg Prod.fst counts,
      congrArg Prod.snd counts, compileRoot_faithful wellFormed plain run⟩
  · cases counts

end Compilation

end ScopeTokenizer.Grammar
