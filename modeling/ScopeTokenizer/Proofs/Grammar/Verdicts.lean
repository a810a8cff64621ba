import ScopeTokenizer.Proofs.Grammar.Depth
import ScopeTokenizer.Proofs.Grammar.Trying

/-!
# Whether rules compile

It is settled by what is written whether a rule compiles: it does unless a fault is ahead of it, and
otherwise the error is one of these faults. For the rule that stands for a grammar, all rules that
are reached are ahead. No rule is compiled without end.
-/

namespace ScopeTokenizer.Grammar

open Compilation Compile

namespace Compilation

variable {sources : Sources} {compilation : Compilation}

theorem Sensible.ready (sensible : compilation.Sensible sources) :
    compilation.Ready sources (compilation.depth sources.library) := by
  refine ⟨sensible, Nat.lt_succ_of_le ((sources.unnumbered_le compilation).trans ?_)⟩
  exact Nat.add_le_add_right sensible.extent _

/-- A rule compiles if no fault is ahead of it. Otherwise the error is one of these faults. -/
theorem compileRule_verdict (wellFormed : sources.WellFormed) (plain : sources.Plain)
    (sensible : compilation.Sensible sources) {around : Surroundings} {node : Node}
    (situated : sources.Situated around node) :
    ((∃ id after, compilation.compileRule sources.library around node = (.ok id, after)) ↔
      ∀ error, ¬ compilation.Blames sources node error) ∧
    ∀ error after, compilation.compileRule sources.library around node = (.error error, after) →
      compilation.Blames sources node error := by
  have tries := judges_rule wellFormed plain _ compilation around node sensible.ready situated
  refine ⟨tries.succeeds_iff fun _ _ advances numbered error => ?_, fun error after run => ?_⟩
  · exact advances.not_blames wellFormed situated.written numbered
  · exact (tries.fails error after run).2.2

theorem tries_compileRoot (wellFormed : sources.WellFormed) (plain : sources.Plain) :
    Tries sources (start sources.host) (root ((start sources.host).depth sources.library))
      ((start sources.host).Blames sources sources.base)
      fun _ after => after.number? sources.base.site ≠ none := by
  have host : (start sources.host).host.self? = some sources.base :=
    LinkedGrammar.self?_ofDef sources.host none
  have fresh : (start sources.host).number? sources.base.site = none := rfl
  have sensible : ((start sources.host).openAt sources.base.site).Sensible sources := by
    refine ⟨rfl, nofun, Nat.le_refl _, ?_⟩
    rw [number?_openAt, if_pos rfl]
    exact nofun
  have inside : (start sources.host).Inside sources (sources.host.size + sources.library.size)
      ((start sources.host).openAt sources.base.site) := by
    refine ⟨⟨sensible, ?_⟩, retains_openAt _ _⟩
    exact Nat.lt_of_lt_of_le (Sources.unnumbered_openAt_lt Sources.ruleAt?_base fresh)
      (sources.unnumbered_le _)
  obtain ⟨grammar, linked, rfl⟩ := sources.exists_linked_base
  refine (tries_registerNew Sources.ruleAt?_base
    (tries_kind (judges_rule wellFormed plain _) wellFormed fresh inside linked
      Sources.ruleAt?_base (plain _ (Sources.mem_rules_of_ruleAt? Sources.ruleAt?_base)))).of_run_eq ?_
  unfold Compile.root
  rw [run_bind, run_get]
  dsimp only
  rw [host]
  exact run_registerAt (start sources.host) sources.library rfl sources.base.site _

/-- Before anything has a number, all rules that are reached are ahead. -/
theorem ahead_start_iff {node : Node} :
    (start sources.host).Ahead sources sources.base node ↔ sources.Reached node := by
  constructor
  · intro ahead
    induction ahead with
    | start _ => exact .base
    | next _ next _ ih =>
      cases next with
      | entry mem means => exact .entry ih mem means
      | capture mem mem' number again => exact .capture ih mem mem' number again
  · intro reached
    induction reached with
    | base => exact .start rfl
    | entry _ mem means ih => exact .next ih (.entry mem means) rfl
    | capture _ mem mem' number again ih => exact .next ih (.capture mem mem' number again) rfl

theorem blames_start_iff {error : GrammarError} :
    (start sources.host).Blames sources sources.base error ↔
      ∃ node, sources.Reached node ∧ sources.Fault node error :=
  exists_congr fun _ => and_congr_left' ahead_start_iff

/-- Compiling a grammar ends: no greater depth of nested rules makes a difference. It succeeds if and
only if no rule that is reached has a fault, and otherwise gives one of these faults. -/
theorem compileRoot_verdict (wellFormed : sources.WellFormed) (plain : sources.Plain) :
    (∀ depth, (start sources.host).depth sources.library ≤ depth →
      (start sources.host).run sources.library (root depth) =
        (start sources.host).compileRoot sources.library) ∧
    ((∃ id compilation,
        (start sources.host).compileRoot sources.library = (.ok id, compilation)) ↔
      ∀ node, sources.Reached node → ∀ error, ¬ sources.Fault node error) ∧
    ∀ error compilation,
      (start sources.host).compileRoot sources.library = (.error error, compilation) →
      ∃ node, sources.Reached node ∧ sources.Fault node error := by
  have tries := tries_compileRoot wellFormed plain
  refine ⟨fun depth le => ?_, ?_, fun error after run => ?_⟩
  · refine (below_root le (start sources.host)).resolve_left fun endless => ?_
    obtain ⟨node, -, fault⟩ := (tries.fails _ _ (Prod.ext endless rfl)).2.2
    cases fault
  · have verdict := tries.succeeds_iff fun _ _ advances numbered error =>
      advances.not_blames wellFormed Sources.ruleAt?_base numbered
    simp only [blames_start_iff, not_exists, not_and] at verdict
    exact verdict.trans ⟨fun none node reached error => none error node reached,
      fun none error node reached => none node reached error⟩
  · exact blames_start_iff.mp (tries.fails error after run).2.2

/-- Two grammars that include one another, of which one has a capture with a number that is too
large. -/
def overnumbered : Sources where
  host :=
    { scopeName := "A"
      patterns := [{ includeName := some "#word" }, { includeName := some "B" }]
      repository := [
        ("word", { matchPattern := some "a", captures := [("32767", { name := some "last" })] })] }
  library := ({} : Library).add
    { scopeName := "B"
      patterns := [{ includeName := some "$base" }, { includeName := some "A#word" }, {
        beginPattern := some "<"
        endPattern := some ">"
        endCaptures := [("32768", { name := some "beyond" })]
        patterns := [{ includeName := some "$self" }] }] }

theorem compileRoot_verdict_overnumbered :
    overnumbered.WellFormed ∧ overnumbered.Plain ∧
      (∀ depth, (start overnumbered.host).depth overnumbered.library ≤ depth →
        (start overnumbered.host).run overnumbered.library (root depth) =
          (start overnumbered.host).compileRoot overnumbered.library) ∧
      ∃ node, overnumbered.Reached node ∧
        overnumbered.Fault node (.captureOutOfRange "32768" "B") := by
  have keys : ∀ rule ∈ overnumbered.rules, ∀ field ∈ [CaptureField.any, .begin, .end, .while],
      ((rule.capturesIn field).map Prod.fst).Nodup := by decide +kernel
  have wellFormed : overnumbered.WellFormed := by
    refine ⟨by decide +kernel, fun rule mem field => keys rule mem field ?_⟩
    cases field <;> decide
  have plain : overnumbered.Plain := by
    intro rule
    revert rule
    decide +kernel
  obtain ⟨ends, -, errors⟩ := compileRoot_verdict wellFormed plain
  have answer : (match (start overnumbered.host).compileRoot overnumbered.library with
      | (.error (.captureOutOfRange key grammar), _) => some (key, grammar)
      | _ => none) = some ("32768", "B") := by decide +kernel
  refine ⟨wellFormed, plain, ends, ?_⟩
  split at answer
  · next key grammar compilation run =>
    cases answer
    exact errors _ compilation run
  · cases answer

end Compilation

end ScopeTokenizer.Grammar
