import ScopeTokenizer.Proofs.Grammar.Hosting
import ScopeTokenizer.Proofs.Tokenizer.Histories

/-!
# The host of all grammars

A tokenizer is made for one grammar, the host. Other grammars come in when they are included, and
when they are injected. By whatever way one comes in, its includes of the host lead to the rule that
stands for the host, and its includes of itself lead to the rule that stands for it.
-/

namespace ScopeTokenizer

open Grammar Compilation Compile Pattern Style

variable {engine : Engine}

namespace Grammar.Sources

/-- Where the ways of a tokenizer start: with the host, and with all that may be injected into it.
All but the host itself comes in after the rule that stands for the host. -/
inductive Entrance (sources : Sources) : Visit → Prop where
  | host {visit : Visit} : sources.Root visit → Entrance sources visit
  | injection {selector : String} {node : Node} :
      (selector, node) ∈ (LinkedGrammar.ofDef sources.host none).injections →
      Entrance sources (.rule [sources.base.site]
        (LinkedGrammar.ofDef sources.host none).surroundings node)
  | grammar {scope : String} {linked : LinkedGrammar} : sources.linked? scope = some linked →
      Entrance sources (.grammar scope linked)
  | injector {scope : String} {linked : LinkedGrammar} {node : Node} :
      sources.linked? scope = some linked → linked.self? = some node →
      Entrance sources (.rule [sources.base.site] linked.surroundings node)

variable {sources : Sources} {visit : Visit}

theorem offers_of_linked? {scope : String} {linked : LinkedGrammar}
    (is : sources.linked? scope = some linked) : sources.Offers linked.repository := by
  obtain ⟨definition, found, rfl⟩ := Option.map_eq_some_iff.mp is
  refine offers_ofDef found ?_
  rintro _ ⟨⟩
  exact sources.written_base

theorem Entrance.begins (entrance : sources.Entrance visit) :
    visit.Written sources ∧ visit.AtHome sources := by
  have inner : sources.base.site ∈ [sources.base.site] := List.mem_cons_self
  cases entrance with
  | host root => exact root.begins
  | injection mem =>
    obtain ⟨rule, -, rfl⟩ := exists_of_mem_namedNodes mem
    exact ⟨⟨.injection (if_pos rfl) mem, offers_of_linked? sources.linked?_host⟩,
      List.mem_cons_of_mem _ inner, _, sources.links_host, sources.visible_host⟩
  | grammar linked => exact ⟨offers_of_linked? linked, linked⟩
  | injector linked self =>
    have offers := offers_of_linked? linked
    have links : sources.Links _ _ := ⟨rfl, _, linked⟩
    obtain ⟨node, is, site⟩ := links.exists_self?
    cases self.symm.trans is
    refine ⟨⟨offers _ _ self, offers⟩, List.mem_cons_of_mem _ inner, _, ?_,
      sources.visible_of_linked? linked⟩
    rw [site]
    exact links

end Grammar.Sources

namespace Tokenizer.Collection

variable {sources : Sources} {collection : Collection} {compilation : Compilation}

/-! ## Injections -/

theorem grounded_add (grounded : collection.compilation.Grounded sources sources.Entrance)
    (selector : String) {grammar : LinkedGrammar} {node : Node}
    (entrance : sources.Entrance (.rule [sources.base.site] grammar.surroundings node)) :
    (collection.add sources.library grammar selector node).compilation.Grounded sources
      sources.Entrance := by
  have seated : collection.compilation.Seated sources sources.Entrance grammar.surroundings node :=
    fun _ => ⟨_, List.forall_mem_singleton.mpr ⟨1, grounded.base⟩, .start entrance⟩
  unfold add
  split
  · exact grounded
  · exact grounded
  · split
    · next run => exact grounded.compileRule seated run
    · next run => exact grounded.compileRule seated run

theorem grounded_addInjector (based : sources.Based)
    (grounded : collection.compilation.Grounded sources sources.Entrance) (injector : String) :
    (collection.addInjector sources.library injector).compilation.Grounded sources
      sources.Entrance := by
  have links (grammar : LinkedGrammar)
      (is : sources.link? injector (some sources.base) = some grammar) :
      sources.Way sources.Entrance (.grammar injector grammar) :=
    .start (.grammar (sources.link?_base injector ▸ is))
  have looks := grounds_grammar? grounded links
  simp only [addInjector, grounded.base?_host]
  split
  · next grammar after run =>
    obtain ⟨grounded, -, given⟩ := looks _ _ run
    have linked : sources.linked? injector = some grammar :=
      ((given _ rfl).2 grammar rfl).atHome based fun _ entrance => entrance.begins
    split
    · next self => exact grounded_add grounded _ (.injector linked self)
    · exact grounded
  · next grammar after run => exact (looks _ _ run).1

/-- Collecting injections keeps a compilation grounded, whichever of them cannot be compiled. -/
theorem grounded_ofCompilation (based : sources.Based)
    (grounded : compilation.Grounded sources sources.Entrance) :
    (ofCompilation compilation sources.library).compilation.Grounded sources sources.Entrance := by
  unfold ofCompilation
  rw [grounded.host]
  refine List.foldlRecOn (motive := fun after : Collection =>
    after.compilation.Grounded sources sources.Entrance) _ _ ?_
    fun collection grounded injector _ => grounded_addInjector based grounded injector
  refine List.foldlRecOn (motive := fun after : Collection =>
    after.compilation.Grounded sources sources.Entrance) _ _ grounded ?_
  exact fun collection grounded injection mem => grounded_add grounded _ (.injection mem)

end Tokenizer.Collection

namespace Tokenizer

variable {sources : Sources} {grammar : GrammarDef} {library : Library} {languages : Languages}
  {theme present : Theme} {origin tokenizer : Tokenizer engine} {given : List Nesting}

/-! ## Tokenizers -/

/-- What a rule refers to for an entry that is written in it, if the entry includes a whole
grammar. -/
structure Reaches (sources : Sources) (tokenizer : Tokenizer engine) (entry : Node) (ref : RuleId) :
    Prop where
  base {text : String} : entry.rule.includeName = some text → IncludeTarget.ofText text = .base →
    ref = tokenizer.root
  host {text : String} : entry.rule.includeName = some text →
    IncludeTarget.ofText text = .grammar sources.host.scopeName → ref = tokenizer.root
  self {text : String} : entry.rule.includeName = some text → IncludeTarget.ofText text = .self →
    tokenizer.compilation.number? ⟨entry.site.grammar, [.self]⟩ = some ref

/-- A tokenizer whose grammars all have the host as their base. Any of its rules but those of
captures comes from what is written at a place, and refers to one rule for each entry there. -/
structure Hosted (sources : Sources) (tokenizer : Tokenizer engine) : Prop where
  host : tokenizer.compilation.host.base? = some sources.base
  included : ∀ entry ∈ tokenizer.compilation.included, entry.2.base? = some sources.base
  root : tokenizer.compilation.number? sources.base.site = some tokenizer.root
  apart : ∀ site other id, tokenizer.compilation.number? site = some id →
    tokenizer.compilation.number? other = some id → site = other
  rules : ∀ id rule, tokenizer.rule? id = some rule →
    (∃ contentName inner, rule.kind = .capture contentName inner) ∨
      ∃ node, sources.Written node ∧ tokenizer.compilation.number? node.site = some id ∧
        List.Forall₂ (tokenizer.Reaches sources) node.entries rule.inner.patterns

theorem reaches_of_grounded
    (grounded : tokenizer.compilation.Grounded sources sources.Entrance)
    (unshadowed : sources.Unshadowed) (root : tokenizer.root = 1) {outer : List Site}
    {around : Surroundings} {node entry : Node} {ref : RuleId}
    (way : sources.Way sources.Entrance (.rule outer around node)) (mem : entry ∈ node.entries)
    (refers : tokenizer.compilation.RefersFrom sources sources.Entrance (node.inside around) entry
      ref) : tokenizer.Reaches sources entry ref := by
  have based := unshadowed.based
  obtain ⟨written, -⟩ := way.written fun _ entrance => entrance.begins.1
  obtain ⟨-, grammar, links, visible⟩ := way.atHome based fun _ entrance => entrance.begins
  replace visible := visible.inside links written
  have first (number : tokenizer.compilation.number? sources.base.site = some ref) :
      ref = tokenizer.root := root ▸ Option.some.inj (number.symm.trans grounded.base)
  constructor
  · intro text included is
    obtain ⟨there, target, means, number⟩ := refers.included text included
    cases means with
    | named isLocal found =>
      rw [is] at isLocal
      cases isLocal
      cases (visible.base links based).symm.trans found
      exact first number
    | entry elsewhere =>
      rw [is] at elsewhere
      cases elsewhere
  · intro text included is
    obtain ⟨there, target, means, number⟩ := refers.included text included
    cases means with
    | named isLocal =>
      rw [is] at isLocal
      cases isLocal
    | entry elsewhere met found =>
      rw [is] at elsewhere
      cases elsewhere
      have linked : sources.linked? _ = some _ := met.atHome based fun _ entrance => entrance.begins
      cases sources.linked?_host.symm.trans linked
      cases (LinkedGrammar.self?_ofDef sources.host none).symm.trans found
      exact first number
  · intro text included is
    obtain ⟨there, target, means, number⟩ := refers.included text included
    cases means with
    | named isLocal found =>
      rw [is] at isLocal
      cases isLocal
      obtain ⟨self, listed, site⟩ := links.exists_self?
      have shared := visible.shared _ (unshadowed.not_owns grammar.scopeName).1
      cases listed.symm.trans (shared.symm.trans found)
      rw [Node.grammar_of_mem_entries mem, ← site]
      exact number
    | entry elsewhere =>
      rw [is] at elsewhere
      cases elsewhere

theorem hosted_of_grounded
    (grounded : tokenizer.compilation.Grounded sources sources.Entrance)
    (unshadowed : sources.Unshadowed) (root : tokenizer.root = 1) : tokenizer.Hosted sources where
  host := grounded.base?_host
  included := fun entry mem => by
    have linked : sources.linked? entry.1 = some entry.2 :=
      (grounded.included entry mem).atHome unshadowed.based fun _ entrance => entrance.begins
    obtain ⟨definition, -, is⟩ := Option.map_eq_some_iff.mp linked
    rw [← is]
    exact LinkedGrammar.base?_ofDef definition (some sources.base)
  root := root ▸ grounded.base
  apart := fun _ _ _ number number' => grounded.distinct.apart number number'
  rules := fun id rule found => by
    refine (grounded.rules found).origin.imp_right fun ⟨site, number⟩ => ?_
    obtain ⟨node, rfl, -, outer, around, way, entries⟩ := (grounded.rules found).met site number
    have written := (way.written fun _ entrance => entrance.begins.1).1
    refine ⟨node, written, number, List.forall₂_iff_get.mpr ⟨entries.length_eq, ?_⟩⟩
    intro index inside inside'
    exact reaches_of_grounded grounded unshadowed root way (List.getElem_mem inside)
      ((List.forall₂_iff_get.mp entries).2 index inside inside')

theorem grounded_ofGrammar
    (compiled : ofGrammar engine grammar library languages theme = .ok origin) :
    origin.compilation.Grounded ⟨grammar, library⟩ (⟨grammar, library⟩ : Sources).Entrance ∧
      origin.root = 1 := by
  obtain ⟨-, root, compilation, run, rfl⟩ := ofGrammar_eq_ok_iff.mp compiled
  let sources : Sources := ⟨grammar, library⟩
  have entrance (visit : Visit) : sources.Root visit → sources.Entrance visit := .host
  obtain ⟨grounded, given⟩ := grounded_compileRoot entrance run
  exact ⟨grounded, Option.some.inj ((given root rfl).2.symm.trans grounded.base)⟩

theorem grounded_collected (based : sources.Based)
    (grounded : origin.compilation.Grounded sources sources.Entrance) :
    (origin.collected sources.library).2.1.compilation.Grounded sources sources.Entrance := by
  unfold Tokenizer.collected
  split
  · exact grounded
  · exact Collection.grounded_ofCompilation based grounded

/-- If no rule has a rule of its own by one of the names that stand for whole grammars, then
whatever happens to a tokenizer, all includes of the host lead to its root, and all includes of
itself in a grammar lead to one rule. -/
theorem grammars_share_host
    (compiled : ofGrammar engine grammar library languages theme = .ok origin)
    (unshadowed : (⟨grammar, library⟩ : Sources).Unshadowed)
    (history : History library origin present tokenizer given) :
    tokenizer.Hosted ⟨grammar, library⟩ := by
  obtain ⟨start, first⟩ := grounded_ofGrammar compiled
  obtain ⟨descends, -, early⟩ := history.sound (coherent_ofGrammar compiled)
  have grounded : tokenizer.compilation.Grounded ⟨grammar, library⟩
      (⟨grammar, library⟩ : Sources).Entrance := by
    cases collected : tokenizer.injections with
    | none => exact early collected ▸ start
    | some injections =>
      have late := descends.late_of_isSome (by rw [collected]; rfl)
      rw [late.compilation_eq, base_withTheme]
      exact grounded_collected unshadowed.based start
  exact hosted_of_grounded grounded unshadowed (descends.root.trans first)

/-- Three grammars that include one another. One of them comes in by being injected, and a rule has
a rule of its own. -/
def crossed : Sources where
  host :=
    { scopeName := "A"
      patterns := [
        { includeName := some "B" },
        { beginPattern := some "<"
          endPattern := some ">"
          patterns := [{ includeName := some "$self" }, { includeName := some "A" }] },
        { patterns := [{ includeName := some "#word" }, { includeName := some "$base" }]
          repository := some [("word", { matchPattern := some "a" })] }] }
  library := (({} : Library).add
    { scopeName := "B"
      patterns := [{ includeName := some "$base" }, { includeName := some "$self" }] }).add
    { scopeName := "C"
      patterns := [{ includeName := some "A" }, { includeName := some "B" },
        { includeName := some "$base" }, { includeName := some "$self" }]
      injectTo := ["A"]
      injectionSelector := some "L:A" }

theorem grammars_share_host_crossed :
    ∃ (theme : Theme) (origin tokenizer : Tokenizer Engine.literal) (given : List Nesting),
      ofGrammar .literal crossed.host crossed.library {} theme = .ok origin ∧
      crossed.Unshadowed ∧ History crossed.library origin theme tokenizer given ∧
      tokenizer.compilation.included.map Prod.fst = ["B", "C"] ∧
      tokenizer.compilation.number? ⟨"C", [.self]⟩ = some 6 ∧ tokenizer.Hosted crossed := by
  have unshadowed : crossed.Unshadowed := by
    intro rule
    revert rule
    decide +kernel
  let theme : Theme := ⟨none, {}, {}, {}⟩
  have checked : (ofGrammar .literal crossed.host crossed.library {} theme).toOption.any
      (fun origin =>
        let after := (origin.collected crossed.library).2.1.compilation
        decide (after.included.map Prod.fst = ["B", "C"] ∧
          after.number? ⟨"C", [.self]⟩ = some 6)) = true := by decide +kernel
  cases compiled : ofGrammar .literal crossed.host crossed.library {} theme with
  | error error =>
    rw [compiled] at checked
    cases checked
  | ok origin =>
    rw [compiled] at checked
    obtain ⟨included, number⟩ := of_decide_eq_true checked
    have is : origin.styler.theme = theme := by rw [styler_ofGrammar compiled]
    have history : History crossed.library origin theme _ [] :=
      (is ▸ History.now).asked .collected
    exact ⟨theme, origin, _, [], compiled, unshadowed, history, included, number,
      grammars_share_host compiled unshadowed history⟩

end Tokenizer

end ScopeTokenizer
