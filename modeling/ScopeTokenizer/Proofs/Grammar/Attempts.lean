import ScopeTokenizer.Proofs.Grammar.Verdicts

/-!
# Compiling after errors

After an error, everything that was compiled until then stays, and so do the numbers of rules that
are missing now. A rule that compiles by itself compiles after any such errors, too. It is different
with a rule that does not compile by itself: its fault is not ahead of it any more if some rule on
the way has got a number, which may have been in vain. If there was no error before, each rule
compiles that compiles by itself, and no others do.
-/

namespace ScopeTokenizer.Grammar

open Compilation Compile

theorem Compile.Tries.keeps {α : Type} {sources : Sources} {before : Compilation}
    {compile : Compile α} {fails : GrammarError → Prop} {post : α → Compilation → Prop}
    (tries : Tries sources before compile fails post) :
    (before.run sources.library compile).2.Sensible sources ∧
      before.Retains (before.run sources.library compile).2 := by
  match run : before.run sources.library compile with
  | (.ok a, after) =>
    obtain ⟨sensible, advances, -⟩ := tries.succeeds a after run
    exact ⟨sensible, advances.retains⟩
  | (.error error, after) =>
    obtain ⟨sensible, retains, -⟩ := tries.fails error after run
    exact ⟨sensible, retains⟩

namespace Compilation

variable {sources : Sources} {compilation before after : Compilation} {around : Surroundings}
  {node : Node}

/-- A compilation after rules were tried one by one, whether or not they have compiled, and grammars
were looked up for them. -/
inductive Attempted (sources : Sources) (first : Compilation) : Compilation → Prop where
  | first : Attempted sources first first
  | rule {compilation : Compilation} {around : Surroundings} {node : Node} :
      Attempted sources first compilation → sources.Situated around node →
      Attempted sources first (compilation.compileRule sources.library around node).2
  | grammar {compilation : Compilation} (scope : String) : Attempted sources first compilation →
      Attempted sources first
        (compilation.run sources.library (grammar? scope (some sources.base))).2

theorem Attempted.sensible (attempted : before.Attempted sources compilation)
    (wellFormed : sources.WellFormed) (plain : sources.Plain) (sensible : before.Sensible sources) :
    compilation.Sensible sources ∧ before.Retains compilation := by
  induction attempted with
  | first => exact ⟨sensible, id⟩
  | rule _ situated ih =>
    obtain ⟨sensible, retains⟩ := ih
    obtain ⟨sensible', retains'⟩ :=
      (judges_rule wellFormed plain _ _ _ _ sensible.ready situated).keeps
    exact ⟨sensible', fun missing => retains (retains' missing)⟩
  | grammar scope _ ih =>
    obtain ⟨sensible, retains⟩ := ih
    have tries : Tries sources _ (grammar? scope (some sources.base)) (fun _ => False) _ :=
      tries_grammar? sensible scope
    obtain ⟨sensible', retains'⟩ := tries.keeps
    exact ⟨sensible', fun missing => retains (retains' missing)⟩

theorem sensible_of_compileRoot (wellFormed : sources.WellFormed) (plain : sources.Plain)
    {root : RuleId}
    (run : (start sources.host).compileRoot sources.library = (.ok root, compilation)) :
    compilation.Sensible sources :=
  ((tries_compileRoot wellFormed plain).succeeds root compilation run).1

/-- Whether a rule compiles after some attempts depends on the faults that are still ahead of it. It
does if it would have compiled before these attempts. If none of them has left behind a rule that
is not clear, it compiles only if it would have compiled before. -/
theorem Attempted.verdict (attempted : before.Attempted sources compilation)
    (wellFormed : sources.WellFormed) (plain : sources.Plain) (sensible : before.Sensible sources)
    (situated : sources.Situated around node) :
    ((∃ id after, compilation.compileRule sources.library around node = (.ok id, after)) ↔
      ∀ error, ¬ compilation.Blames sources node error) ∧
    ((∃ id after, before.compileRule sources.library around node = (.ok id, after)) →
      ∃ id after, compilation.compileRule sources.library around node = (.ok id, after)) ∧
    (before.Advances sources compilation →
      (∃ id after, compilation.compileRule sources.library around node = (.ok id, after)) →
        ∃ id after, before.compileRule sources.library around node = (.ok id, after)) := by
  obtain ⟨sensible', retains⟩ := attempted.sensible wellFormed plain sensible
  obtain ⟨early, -⟩ := compileRule_verdict wellFormed plain sensible situated
  obtain ⟨late, -⟩ := compileRule_verdict wellFormed plain sensible' situated
  refine ⟨late, fun alone => ?_, fun advances compiled => ?_⟩
  · exact late.mpr fun error blames => early.mp alone error (blames.anti retains)
  · obtain ⟨id, after, run⟩ := compiled
    have tries := judges_rule wellFormed plain _ _ _ _ sensible'.ready situated
    obtain ⟨-, advances', numbered⟩ := tries.succeeds id after run
    exact early.mpr fun _ =>
      (advances.trans advances').not_blames wellFormed situated.written numbered

end Compilation

end ScopeTokenizer.Grammar
