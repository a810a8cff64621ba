import ScopeTokenizer.Proofs.Grammar.Rendering

/-!
# Faults of rules

A rule can have faults: it includes something that does not exist, or it has a capture whose number
is too large. A fault is ahead of a rule if this leads to it through rules that have no number yet.
Once a rule has got a number and nothing that it leads to was left without one, no fault can have
been ahead of it.
-/

namespace ScopeTokenizer.Grammar

open Compilation Pattern Text

/-! ## Faults -/

namespace Sources

/-- What may be wrong with a rule, as it is reported. -/
inductive Fault (sources : Sources) (node : Node) : GrammarError → Prop where
  | unresolved {entry : Node} {text : String} : entry ∈ node.entries →
      entry.rule.includeName = some text → sources.meant? entry = none →
      Fault sources node (.unresolvedInclude text node.site.grammar)
  | outOfRange {captures : List (String × Node)} {key : String} {captured : Node} :
      captures ∈ node.captureLists → (key, captured) ∈ captures → Compile.isNumber key →
      Compile.maxGroup < Source.groupNumber key.toList →
      Fault sources node (.captureOutOfRange key node.site.grammar)

/-- The rules that a rule leads to. -/
inductive Next (sources : Sources) (node : Node) : Node → Prop where
  | entry {entry target : Node} : entry ∈ node.entries → sources.meant? entry = some target →
      Next sources node target
  | capture {captures : List (String × Node)} {key : String} {captured : Node} :
      captures ∈ node.captureLists → (key, captured) ∈ captures → Compile.isNumber key →
      captured.rule.hasPatterns → Next sources node captured

/-- A rule that is written at its place, with the surroundings of its grammar. Those of the rule
that stands for the host may be any, since it is compiled before everything else. -/
structure Situated (sources : Sources) (around : Surroundings) (node : Node) : Prop where
  written : sources.ruleAt? node.site = some node.rule
  surroundings : node = sources.base ∨
    ∃ grammar, sources.linked? node.site.grammar = some grammar ∧ grammar.surroundings = around

variable {sources : Sources} {node : Node}

theorem WellFormed.scopeName_of_linked? (wellFormed : sources.WellFormed) {scope : String}
    {grammar : LinkedGrammar} (linked : sources.linked? scope = some grammar) :
    grammar.scopeName = scope := by
  obtain ⟨definition, found, rfl⟩ := Option.map_eq_some_iff.mp linked
  exact wellFormed.scopeName_eq found

theorem WellFormed.situated_of_find? (wellFormed : sources.WellFormed) {scope name : String}
    {grammar : LinkedGrammar} (linked : sources.linked? scope = some grammar)
    (found : grammar.repository.find? name = some node) :
    sources.Situated grammar.surroundings node := by
  obtain ⟨written, within⟩ := wellFormed.of_find? linked found
  exact ⟨written, within.imp_right fun linked => ⟨grammar, linked, rfl⟩⟩

theorem exists_linked_base (sources : Sources) : ∃ grammar,
    sources.linked? sources.base.site.grammar = some grammar ∧
      grammar = .ofDef sources.host none :=
  ⟨_, congrArg (Option.map _) (if_pos rfl), rfl⟩

theorem eq_of_site_eq {first second : Node} (written : sources.ruleAt? first.site = some first.rule)
    (written' : sources.ruleAt? second.site = some second.rule) (same : first.site = second.site) :
    first = second := by
  rw [same, written'] at written
  cases first
  cases second
  cases same
  cases written
  rfl

end Sources

namespace Compilation

variable {sources : Sources} {before middle after compilation : Compilation} {node target : Node}
  {error : GrammarError}

/-- The rules to which a rule leads through rules without numbers. -/
inductive Ahead (sources : Sources) (compilation : Compilation) (start : Node) : Node → Prop where
  | start : compilation.number? start.site = none → Ahead sources compilation start start
  | next {node next : Node} : Ahead sources compilation start node → sources.Next node next →
      compilation.number? next.site = none → Ahead sources compilation start next

/-- What is wrong ahead of a rule. -/
def Blames (sources : Sources) (compilation : Compilation) (start : Node) (error : GrammarError) :
    Prop :=
  ∃ node, compilation.Ahead sources start node ∧ sources.Fault node error

/-- Something is meant, and it has a number. -/
def Meets (compilation : Compilation) (target? : Option Node) : Prop :=
  ∃ target, target? = some target ∧ compilation.number? target.site ≠ none

/-- No capture has a number that is too large, and those that are read again have a number. -/
def Admits (compilation : Compilation) (captures : List (String × Node)) : Prop :=
  ∀ key captured, (key, captured) ∈ captures → Compile.isNumber key →
    Source.groupNumber key.toList ≤ Compile.maxGroup ∧
      (captured.rule.hasPatterns → compilation.number? captured.site ≠ none)

/-- A rule without a fault that leads to rules with numbers only. -/
structure Clear (sources : Sources) (compilation : Compilation) (node : Node) : Prop where
  entries : ∀ entry ∈ node.entries, compilation.Meets (sources.meant? entry)
  captures : ∀ captures ∈ node.captureLists, compilation.Admits captures

theorem Clear.faultless (clear : compilation.Clear sources node) : ¬ sources.Fault node error := by
  rintro (⟨mem, -, missing⟩ | ⟨mem, mem', number, above⟩)
  · obtain ⟨target, means, -⟩ := clear.entries _ mem
    cases missing.symm.trans means
  · exact absurd above (Nat.not_lt.mpr (clear.captures _ mem _ _ mem' number).1)

theorem Clear.numbered (clear : compilation.Clear sources node) (next : sources.Next node target) :
    compilation.number? target.site ≠ none := by
  cases next with
  | entry mem means =>
    obtain ⟨other, means', numbered⟩ := clear.entries _ mem
    cases means.symm.trans means'
    exact numbered
  | capture mem mem' number again => exact (clear.captures _ mem _ _ mem' number).2 again

/-! ## Getting ahead -/

/-- Places keep their having a number. -/
def Retains (before after : Compilation) : Prop :=
  ∀ {site}, after.number? site = none → before.number? site = none

theorem Retains.numbered (retains : before.Retains after) {site : Site}
    (numbered : before.number? site ≠ none) : after.number? site ≠ none :=
  mt retains numbered

theorem Meets.mono {target? : Option Node} (meets : before.Meets target?)
    (retains : before.Retains after) : after.Meets target? := by
  obtain ⟨target, means, numbered⟩ := meets
  exact ⟨target, means, retains.numbered numbered⟩

theorem Admits.mono {captures : List (String × Node)} (admits : before.Admits captures)
    (retains : before.Retains after) : after.Admits captures := by
  intro key captured mem number
  obtain ⟨le, rereads⟩ := admits key captured mem number
  exact ⟨le, fun again => retains.numbered (rereads again)⟩

theorem Clear.mono (clear : before.Clear sources node) (retains : before.Retains after) :
    after.Clear sources node where
  entries := fun entry mem => (clear.entries entry mem).mono retains
  captures := fun captures mem => (clear.captures captures mem).mono retains

theorem Ahead.fresh {start : Node} (ahead : compilation.Ahead sources start node) :
    compilation.number? node.site = none := by
  cases ahead with
  | start fresh => exact fresh
  | next _ _ fresh => exact fresh

/-- Fewer rules are ahead later on. -/
theorem Ahead.anti {start : Node} (ahead : after.Ahead sources start node)
    (retains : before.Retains after) : before.Ahead sources start node := by
  induction ahead with
  | start fresh => exact .start (retains fresh)
  | next _ next fresh ih => exact .next ih next (retains fresh)

theorem Ahead.of_next {start : Node} (fresh : compilation.number? node.site = none)
    (next : sources.Next node start) (ahead : compilation.Ahead sources start target) :
    compilation.Ahead sources node target := by
  induction ahead with
  | start fresh' => exact .next (.start fresh) next fresh'
  | next _ next' fresh' ih => exact .next ih next' fresh'

theorem Blames.anti {start : Node} (blames : after.Blames sources start error)
    (retains : before.Retains after) : before.Blames sources start error := by
  obtain ⟨node, ahead, fault⟩ := blames
  exact ⟨node, ahead.anti retains, fault⟩

theorem Blames.of_next (blames : compilation.Blames sources target error)
    (fresh : compilation.number? node.site = none) (next : sources.Next node target) :
    compilation.Blames sources node error := by
  obtain ⟨other, ahead, fault⟩ := blames
  exact ⟨other, ahead.of_next fresh next, fault⟩

/-- All rules that have got a number are clear. -/
structure Advances (sources : Sources) (before after : Compilation) : Prop where
  retains : before.Retains after
  clear : ∀ node : Node, sources.ruleAt? node.site = some node.rule →
    before.number? node.site = none → after.number? node.site ≠ none → after.Clear sources node

theorem Advances.of_numbers (same : after.numbers = before.numbers) :
    before.Advances sources after := by
  have number? (site : Site) : after.number? site = before.number? site := by
    rw [Compilation.number?, Compilation.number?, same]
  exact ⟨fun missing => number? _ ▸ missing,
    fun node _ fresh numbered => absurd (number? node.site ▸ fresh) numbered⟩

theorem Advances.refl (compilation : Compilation) : compilation.Advances sources compilation :=
  .of_numbers rfl

theorem Advances.trans (first : before.Advances sources middle)
    (second : middle.Advances sources after) : before.Advances sources after where
  retains := fun missing => first.retains (second.retains missing)
  clear := fun node written fresh numbered => by
    by_cases early : middle.number? node.site = none
    · exact second.clear node written early numbered
    · exact (first.clear node written fresh early).mono second.retains

/-- Nothing was ahead of a rule that has got a number, but rules without faults. -/
theorem Advances.not_blames (advances : before.Advances sources after)
    (wellFormed : sources.WellFormed) {start : Node}
    (written : sources.ruleAt? start.site = some start.rule)
    (numbered : after.number? start.site ≠ none) : ¬ before.Blames sources start error := by
  rintro ⟨node, ahead, fault⟩
  have due (node : Node) (ahead : before.Ahead sources start node) :
      sources.ruleAt? node.site = some node.rule ∧ after.number? node.site ≠ none := by
    induction ahead with
    | start _ => exact ⟨written, numbered⟩
    | next ahead next fresh ih =>
      obtain ⟨written, numbered⟩ := ih
      have clear := advances.clear _ written ahead.fresh numbered
      refine ⟨?_, clear.numbered next⟩
      cases next with
      | entry mem means => exact wellFormed.written_of_meant? written mem means
      | capture mem mem' _ _ => exact wellFormed.written_of_capture written mem mem'
  obtain ⟨written, numbered⟩ := due node ahead
  exact (advances.clear node written ahead.fresh numbered).faultless fault

end Compilation

end ScopeTokenizer.Grammar
