import ScopeTokenizer.Proofs.Grammar.Attempts
import ScopeTokenizer.Proofs.Tokenizer.Collecting

/-!
# Injections and broken rules

The rules that are offered as injections are compiled one after the other, and those that do not
compile are left out. None of these takes away another one: what compiles right after the rule that
stands for the grammar is kept, whatever else was offered before it. But a broken rule may be kept,
if another one has failed before for the same reason.
-/

namespace ScopeTokenizer

open Grammar Compilation Compile Text

/-- A rule that a grammar wants to be injected, and the selector that says where. -/
structure Offer where
  grammar : LinkedGrammar
  selector : String
  node : Node

namespace Grammar.Sources

variable (sources : Sources)

/-- What the host wants to be injected into itself. -/
def ownOffers : List Offer :=
  (LinkedGrammar.ofDef sources.host none).injections.map fun (selector, node) =>
    ⟨.ofDef sources.host none, selector, node⟩

/-- What a grammar wants to be injected elsewhere: itself, if it says where. -/
def offer? (injector : String) : Option Offer :=
  (sources.linked? injector).bind fun grammar =>
    match grammar.injectionSelector, grammar.self? with
    | some selector, some node => some ⟨grammar, selector, node⟩
    | _, _ => none

/-- All that is to be injected into the host, in the order in which it is tried. -/
def offers : List Offer :=
  sources.ownOffers ++ (sources.library.injectorsOf sources.host.scopeName).filterMap sources.offer?

variable {sources} {offer : Offer}

/-- What is offered is written in the grammar that offers it. -/
theorem WellFormed.situated_of_mem_offers (wellFormed : sources.WellFormed)
    (selectors : (sources.host.injections.map Prod.fst).Nodup) (mem : offer ∈ sources.offers) :
    sources.Situated offer.grammar.surroundings offer.node := by
  rcases List.mem_append.mp mem with own | other
  · obtain ⟨⟨selector, node⟩, listed, rfl⟩ := List.mem_map.mp own
    obtain ⟨⟨selector, rule⟩, written, is⟩ := List.mem_map.mp listed
    cases is
    obtain ⟨grammar, linked, rfl⟩ := sources.exists_linked_base
    have host : sources.grammar? sources.host.scopeName = some sources.host := if_pos rfl
    have found : Keyed.find? sources.host.injections selector = some rule :=
      Keyed.find?_of_mem selectors written
    refine ⟨?_, .inr ⟨_, linked, rfl⟩⟩
    simp [ruleAt?, Site.child, host, GrammarDef.ruleAt?, found]
  · obtain ⟨injector, -, is⟩ := List.mem_filterMap.mp other
    obtain ⟨grammar, linked, is⟩ := Option.bind_eq_some_iff.mp is
    split at is
    · next selector node _ self =>
      cases is
      exact wellFormed.situated_of_find? linked self
    · cases is

end Grammar.Sources

namespace Tokenizer.Collection

variable {sources : Sources} {compilation : Compilation}
  {before middle after collection : Collection} {offer : Offer}

/-! ## Trying offers -/

/-- Nothing is taken back that was collected. -/
structure Continues (before after : Collection) : Prop where
  injections : before.injections <+: after.injections
  warnings : before.warnings <+: after.warnings

theorem Continues.refl (collection : Collection) : Continues collection collection :=
  ⟨List.prefix_rfl, List.prefix_rfl⟩

theorem Continues.trans (first : Continues before middle) (second : Continues middle after) :
    Continues before after :=
  ⟨first.injections.trans second.injections, first.warnings.trans second.warnings⟩

theorem continues_add (collection : Collection) (library : Library) (grammar : LinkedGrammar)
    (selector : String) (node : Node) :
    Continues collection (collection.add library grammar selector node) := by
  unfold add
  split
  · exact ⟨List.prefix_rfl, List.prefix_append _ _⟩
  · exact .refl _
  · split
    · exact ⟨List.prefix_rfl, List.prefix_append _ _⟩
    · exact ⟨List.prefix_append _ _, List.prefix_rfl⟩

theorem continues_addInjector (collection : Collection) (library : Library) (injector : String) :
    Continues collection (collection.addInjector library injector) := by
  unfold addInjector
  dsimp only
  split
  · next grammar after _ =>
    have same : Continues collection { collection with compilation := after } :=
      ⟨List.prefix_rfl, List.prefix_rfl⟩
    split
    · exact same.trans (continues_add _ _ _ _ _)
    · exact same
  · exact ⟨List.prefix_rfl, List.prefix_append _ _⟩

/-- Everything is tried at some time, and nothing is taken back. -/
theorem exists_before_of_mem {α : Type} (step : Collection → α → Collection) (list : List α)
    {P : Collection → Prop} (continues : ∀ collection a, Continues collection (step collection a))
    (keeps : ∀ a ∈ list, ∀ collection, P collection → P (step collection a))
    (start : P collection) :
    P (list.foldl step collection) ∧ Continues collection (list.foldl step collection) ∧
      ∀ a ∈ list, ∃ before, P before ∧ Continues (step before a) (list.foldl step collection) := by
  induction list generalizing collection with
  | nil => exact ⟨start, .refl _, nofun⟩
  | cons first list ih =>
    obtain ⟨now, later⟩ := List.forall_mem_cons.mp keeps
    obtain ⟨last, longer, each⟩ := ih later (now collection start)
    refine ⟨last, (continues collection first).trans longer, List.forall_mem_cons.mpr ⟨?_, each⟩⟩
    exact ⟨collection, start, longer⟩

/-- No injection was left out since its rule does not compile. -/
def Unbroken (collection : Collection) : Prop :=
  ∀ selector scope error, .brokenInjection selector scope error ∉ collection.warnings

theorem Continues.unbroken (continues : Continues before after) (unbroken : Unbroken after) :
    Unbroken before :=
  fun selector scope error mem => unbroken selector scope error (continues.warnings.subset mem)

/-- Rules were tried after the rule that stands for the host. As long as none was broken, all rules
that have a number are clear. -/
structure Tried (sources : Sources) (first : Compilation) (collection : Collection) : Prop where
  attempted : first.Attempted sources collection.compilation
  advances : Unbroken collection → first.Advances sources collection.compilation

section Trying

variable (wellFormed : sources.WellFormed) (plain : sources.Plain)
  (sensible : compilation.Sensible sources) (tried : Tried sources compilation collection)

include wellFormed plain sensible tried

theorem tried_add (offer : Offer)
    (situated : sources.Situated offer.grammar.surroundings offer.node) :
    Tried sources compilation
      (collection.add sources.library offer.grammar offer.selector offer.node) := by
  obtain ⟨sensible', -⟩ := tried.attempted.sensible wellFormed plain sensible
  have continues := continues_add collection sources.library offer.grammar offer.selector offer.node
  unfold add at continues ⊢
  split at continues
  · exact ⟨tried.attempted, fun unbroken => tried.advances (continues.unbroken unbroken)⟩
  · exact tried
  · have attempted := Attempted.rule tried.attempted situated
    have tries := judges_rule wellFormed plain _ _ _ _ sensible'.ready situated
    split at continues
    · next error after run =>
      rw [run] at attempted
      refine ⟨attempted, fun unbroken => absurd ?_
        (unbroken offer.selector offer.grammar.scopeName error)⟩
      exact List.mem_append_right _ (List.mem_singleton.mpr rfl)
    · next rule after run =>
      rw [run] at attempted
      refine ⟨attempted, fun unbroken => ?_⟩
      exact (tried.advances (continues.unbroken unbroken)).trans (tries.succeeds rule after run).2.1

/-- A grammar that is to be injected is looked up, and then it is tried if it says where. -/
theorem tried_addInjector (injector : String) :
    Tried sources compilation (collection.addInjector sources.library injector) ∧
      ∀ offer, sources.offer? injector = some offer → ∃ before,
        Tried sources compilation before ∧
          collection.addInjector sources.library injector =
            before.add sources.library offer.grammar offer.selector offer.node := by
  obtain ⟨sensible', -⟩ := tried.attempted.sensible wellFormed plain sensible
  have base : collection.compilation.host.base? = some sources.base := by
    rw [sensible'.host]
    exact LinkedGrammar.base?_ofDef sources.host none
  have tries : Tries sources collection.compilation (grammar? injector (some sources.base))
      (fun _ => False) fun answer _ => answer = sources.linked? injector :=
    tries_grammar? sensible' injector
  have attempted := Attempted.grammar injector tried.attempted
  have continues := continues_addInjector collection sources.library injector
  unfold addInjector at continues ⊢
  dsimp only at continues ⊢
  rw [base] at continues ⊢
  match run : collection.compilation.run sources.library
      (grammar? injector (some sources.base)) with
  | (.error error, after) => exact (tries.fails error after run).2.2.elim
  | (.ok answer, after) =>
    rw [run] at attempted continues
    obtain ⟨-, advances, rfl⟩ := tries.succeeds answer after run
    have looked : Tried sources compilation { collection with compilation := after } :=
      ⟨attempted, fun unbroken => (tried.advances unbroken).trans advances⟩
    cases linked : sources.linked? injector with
    | none =>
      rw [linked] at continues
      refine ⟨⟨attempted, fun unbroken => looked.advances (continues.unbroken unbroken)⟩,
        fun offer is => ?_⟩
      rw [Sources.offer?, linked] at is
      cases is
    | some grammar =>
      dsimp only
      split
      · next selector node asks self =>
        have situated := wellFormed.situated_of_find? linked self
        refine ⟨tried_add wellFormed plain sensible looked ⟨grammar, selector, node⟩ situated,
          fun offer is => ?_⟩
        rw [Sources.offer?, linked, Option.bind_some, asks, self] at is
        cases is
        exact ⟨_, looked, rfl⟩
      · next silent =>
        refine ⟨looked, fun offer is => ?_⟩
        rw [Sources.offer?, linked, Option.bind_some] at is
        split at is
        · next selector node asks self => exact absurd self (silent selector node asks)
        · cases is

end Trying

/-- Each offer is tried at some time, and what comes of it is kept. -/
theorem exists_tried_of_mem (wellFormed : sources.WellFormed) (plain : sources.Plain)
    (selectors : (sources.host.injections.map Prod.fst).Nodup)
    (sensible : compilation.Sensible sources) (mem : offer ∈ sources.offers) :
    ∃ before, Tried sources compilation before ∧
      Continues (before.add sources.library offer.grammar offer.selector offer.node)
        (ofCompilation compilation sources.library) := by
  have host : compilation.host = .ofDef sources.host none := sensible.host
  have is : ofCompilation compilation sources.library =
      (sources.library.injectorsOf sources.host.scopeName).foldl
        (fun collection injector => collection.addInjector sources.library injector)
        (sources.ownOffers.foldl (fun collection offer =>
          collection.add sources.library offer.grammar offer.selector offer.node)
          { compilation }) := by
    rw [Sources.ownOffers, List.foldl_map, ofCompilation, host]
    rfl
  have start : Tried sources compilation { compilation } := ⟨.first, fun _ => .refl _⟩
  obtain ⟨between, -, own⟩ := exists_before_of_mem
    (fun collection (offer : Offer) =>
      collection.add sources.library offer.grammar offer.selector offer.node) sources.ownOffers
    (fun collection offer => continues_add collection _ _ _ _)
    (fun offer mem collection (tried : Tried sources compilation collection) =>
      tried_add wellFormed plain sensible tried offer
        (wellFormed.situated_of_mem_offers selectors (List.mem_append_left _ mem))) start
  obtain ⟨-, kept, others⟩ := exists_before_of_mem
    (fun collection injector => collection.addInjector sources.library injector)
    (sources.library.injectorsOf sources.host.scopeName)
    (fun collection injector => continues_addInjector collection _ _)
    (fun injector _ collection (tried : Tried sources compilation collection) =>
      (tried_addInjector wellFormed plain sensible tried injector).1) between
  rw [is]
  rcases List.mem_append.mp mem with mem | mem
  · obtain ⟨before, tried, continues⟩ := own offer mem
    exact ⟨before, tried, continues.trans kept⟩
  · obtain ⟨injector, listed, offers⟩ := List.mem_filterMap.mp mem
    obtain ⟨before, tried, continues⟩ := others injector listed
    obtain ⟨before', tried', added⟩ :=
      (tried_addInjector wellFormed plain sensible tried injector).2 offer offers
    exact ⟨before', tried', added ▸ continues⟩

/-- An offer is kept if its rule compiles right after the rule that stands for the host, whatever
else was tried before it. If no offer is left out since its rule is broken, no rule would be broken
right after the rule that stands for the host. -/
theorem collects_offers (wellFormed : sources.WellFormed) (plain : sources.Plain)
    (selectors : (sources.host.injections.map Prod.fst).Nodup) {root : RuleId}
    (run : (start sources.host).compileRoot sources.library = (.ok root, compilation))
    (mem : offer ∈ sources.offers) {parts : List Selector.Part}
    (read : Selector.ofText offer.selector = .ok parts) (some : parts ≠ []) :
    ((∃ id after, compilation.compileRule sources.library offer.grammar.surroundings offer.node =
        (.ok id, after)) →
      ∃ id, ∀ part ∈ parts, ⟨part.matcher, part.priority, id, offer.grammar.scopeName⟩ ∈
        (ofCompilation compilation sources.library).injections) ∧
    (Unbroken (ofCompilation compilation sources.library) →
      ∃ id after, compilation.compileRule sources.library offer.grammar.surroundings offer.node =
        (.ok id, after)) := by
  have sensible := sensible_of_compileRoot wellFormed plain run
  have situated := wellFormed.situated_of_mem_offers selectors mem
  obtain ⟨before, tried, continues⟩ := exists_tried_of_mem wellFormed plain selectors sensible mem
  obtain ⟨-, late, early⟩ := tried.attempted.verdict wellFormed plain sensible situated
  have unbroken := continues_add before sources.library offer.grammar offer.selector offer.node
  obtain ⟨first, others, rfl⟩ := List.exists_cons_of_ne_nil some
  unfold add at continues unbroken
  rw [read] at continues unbroken
  dsimp only at continues unbroken
  split at continues
  · next error after failed =>
    constructor
    · intro alone
      obtain ⟨id, after', compiled⟩ := late alone
      cases failed.symm.trans compiled
    · intro unbroken
      refine absurd (continues.warnings.subset ?_)
        (unbroken offer.selector offer.grammar.scopeName error)
      exact List.mem_append_right _ (List.mem_singleton.mpr rfl)
  · next rule after compiled =>
    constructor
    · intro _
      refine ⟨rule, fun part among => continues.injections.subset ?_⟩
      exact List.mem_append_right _ (List.mem_map_of_mem among)
    · intro whole
      rw [compiled] at unbroken
      exact early (tried.advances (unbroken.unbroken (continues.unbroken whole)))
        ⟨rule, after, compiled⟩

/-- A grammar with three injections, the first two of which include the same broken rule. -/
def faulty : Sources where
  host :=
    { scopeName := "A"
      repository := [("broken", { patterns := [{ includeName := some "#missing" }] })]
      injections := [
        ("L:a", { patterns := [{ includeName := some "#broken" }] }),
        ("L:b", { patterns := [{ includeName := some "#broken" }] }),
        ("L:c", { patterns := [{ matchPattern := some "c" }] })] }
  library := {}

theorem sorted_faulty : faulty.host.Sorted := by
  have grouped (text : String) :
      ({ patterns := [{ includeName := some text }] } : RuleDef).Sorted :=
    .ofPatterns (List.forall_mem_singleton.mpr (.ofInclude text))
  have single : ({ patterns := [{ matchPattern := some "c" }] } : RuleDef).Sorted :=
    .ofPatterns (List.forall_mem_singleton.mpr (.ofMatch "c"))
  refine ⟨List.forall_mem_nil _, ⟨List.pairwise_singleton _ _, ?_⟩, ?_, ?_⟩
  · exact List.forall_mem_singleton.mpr (grouped "#missing")
  · unfold Keyed.Increasing
    decide
  · simp only [faulty, List.forall_mem_cons]
    exact ⟨grouped "#broken", grouped "#broken", single, List.forall_mem_nil _⟩

/-- The compilation after its host was compiled, if the host can be compiled. -/
def compiled? (sources : Sources) : Option Compilation :=
  match (start sources.host).compileRoot sources.library with
  | (.ok _, compilation) => some compilation
  | (.error _, _) => none

theorem exists_compileRoot {check : Compilation → Bool}
    (checked : (compiled? sources).any check = true) :
    ∃ root compilation, (start sources.host).compileRoot sources.library = (.ok root, compilation) ∧
      check compilation = true := by
  obtain ⟨compilation, compiled, holds⟩ := (Option.any_eq_true _ _).mp checked
  unfold compiled? at compiled
  split at compiled
  · next root after run =>
    cases compiled
    exact ⟨root, compilation, run, holds⟩
  · cases compiled

/-- The scopes of a test for one path. -/
def pathOf? : Selector.Matcher → Option (List String)
  | .path scopes => some scopes
  | .all _ | .any _ | .not _ => none

theorem eq_of_pathOf? {matcher : Selector.Matcher} {scopes : List String}
    (is : pathOf? matcher = some scopes) : matcher = .path scopes := by
  cases matcher with
  | path => exact congrArg Selector.Matcher.path (Option.some.inj is)
  | all | any | not => cases is

/-- The scopes of a selector that asks for one path and goes to the left. -/
def leftPath? (selector : String) : Option (List String) :=
  match Selector.ofText selector with
  | .ok [⟨matcher, .left⟩] => pathOf? matcher
  | _ => none

theorem ofText_of_leftPath? {selector : String} {scopes : List String}
    (is : leftPath? selector = some scopes) :
    Selector.ofText selector = .ok [⟨.path scopes, .left⟩] := by
  unfold leftPath? at is
  split at is
  · next read => exact eq_of_pathOf? is ▸ read
  · cases is

theorem collects_offers_faulty : faulty.WellFormed ∧ faulty.Plain ∧
    (faulty.host.injections.map Prod.fst).Nodup ∧
    ∃ root compilation offer parts, (start faulty.host).compileRoot faulty.library =
        (.ok root, compilation) ∧
      offer ∈ faulty.offers ∧ Selector.ofText offer.selector = .ok parts ∧ parts ≠ [] ∧
      ∃ id, ∀ part ∈ parts, ⟨part.matcher, part.priority, id, "A"⟩ ∈
        (ofCompilation compilation faulty.library).injections := by
  have wellFormed : faulty.WellFormed :=
    Sources.wellFormed_of_sorted sorted_faulty Library.wellFormed_empty
  have plain : faulty.Plain := by
    intro rule
    revert rule
    decide +kernel
  have selectors : (faulty.host.injections.map Prod.fst).Nodup := by decide
  let offer : Offer :=
    ⟨.ofDef faulty.host none, "L:c",
      ⟨⟨"A", [.injection "L:c"]⟩, { patterns := [{ matchPattern := some "c" }] }⟩⟩
  have mem : offer ∈ faulty.offers := List.mem_of_getElem? (i := 2) rfl
  have read := ofText_of_leftPath? (show leftPath? "L:c" = some ["c"] by decide +kernel)
  have checked : (compiled? faulty).any (fun compilation =>
      (compilation.compileRule faulty.library offer.grammar.surroundings offer.node).1.toBool) =
        true := by decide +kernel
  obtain ⟨root, compilation, run, compiles⟩ := exists_compileRoot checked
  cases alone :
      compilation.compileRule faulty.library offer.grammar.surroundings offer.node with
  | mk answer after =>
    rw [alone] at compiles
    cases answer with
    | error error => cases compiles
    | ok id =>
      have kept := (collects_offers wellFormed plain selectors run mem read
        (List.cons_ne_nil _ _)).1 ⟨id, after, alone⟩
      exact ⟨wellFormed, plain, selectors, root, compilation, offer, _, run, mem, read,
        List.cons_ne_nil _ _, kept⟩

/-- A broken rule may be kept, and refer to a rule that is missing: the second injection does not
compile by itself, but it does after the first one has failed. -/
theorem broken_offer_kept : ∃ root compilation offer,
    (start faulty.host).compileRoot faulty.library = (.ok root, compilation) ∧
    offer ∈ faulty.offers ∧ Selector.ofText offer.selector = .ok [⟨.path ["b"], .left⟩] ∧
    (∀ id after, compilation.compileRule faulty.library offer.grammar.surroundings offer.node ≠
      (.ok id, after)) ∧
    ∃ injection ∈ (ofCompilation compilation faulty.library).injections,
      injection.matcher = .path ["b"] ∧
      ∃ rule ref,
        (ofCompilation compilation faulty.library).compilation.table.rule? injection.rule =
          some rule ∧
        ref ∈ rule.references ∧
        (ofCompilation compilation faulty.library).compilation.table.rule? ref = none := by
  let offer : Offer :=
    ⟨.ofDef faulty.host none, "L:b",
      ⟨⟨"A", [.injection "L:b"]⟩, { patterns := [{ includeName := some "#broken" }] }⟩⟩
  have mem : offer ∈ faulty.offers := List.mem_of_getElem? (i := 1) rfl
  have read := ofText_of_leftPath? (show leftPath? "L:b" = some ["b"] by decide +kernel)
  have checked : (compiled? faulty).any (fun compilation =>
      let collection := ofCompilation compilation faulty.library
      !(compilation.compileRule faulty.library offer.grammar.surroundings offer.node).1.toBool &&
        collection.injections.any fun injection =>
          pathOf? injection.matcher == some ["b"] &&
            (collection.compilation.table.rule? injection.rule).any fun rule =>
              rule.references.any fun ref => (collection.compilation.table.rule? ref).isNone) =
        true := by decide +kernel
  obtain ⟨root, compilation, run, holds⟩ := exists_compileRoot checked
  obtain ⟨alone, keeps⟩ := Bool.and_eq_true_iff.mp holds
  obtain ⟨injection, kept, is⟩ := List.any_eq_true.mp keeps
  obtain ⟨matcher, broken⟩ := Bool.and_eq_true_iff.mp is
  obtain ⟨rule, found, refers⟩ := (Option.any_eq_true _ _).mp broken
  obtain ⟨ref, mem', missing⟩ := List.any_eq_true.mp refers
  refine ⟨root, compilation, offer, run, mem, read, fun id after compiled => ?_,
    injection, kept, eq_of_pathOf? (beq_iff_eq.mp matcher), rule, ref, found, mem',
    Option.isNone_iff_eq_none.mp missing⟩
  rw [compiled] at alone
  cases alone

end Tokenizer.Collection

end ScopeTokenizer
