import ScopeTokenizer.Proofs.Grammar.Changes
import ScopeTokenizer.Proofs.Pattern.Literal
import ScopeTokenizer.Proofs.Tokenizer.Collecting
import ScopeTokenizer.Registry

/-!
# Grammars in several versions

A grammar that is added to a registry takes the place of the one with its scope name. But a grammar
is injected wherever any of its versions has asked to be, into all that is loaded afterwards. Apart
from that, it is as if only its last version had been added.
-/

namespace ScopeTokenizer

open Grammar Pattern Style Text

namespace Registry

open Change

variable {engine : Engine} (registry : Registry engine)

/-! ## Requests -/

section Requests

variable {registry} {α : Type} {request : Request engine α} {a : α} {after : Registry engine}
  {error : GrammarError}

theorem ask_add (registry : Registry engine) (grammar : GrammarDef) :
    registry.ask (.add grammar) =
      if grammar.scopeName.isEmpty then (.error .missingScopeName, registry)
      else (.ok (), { registry with library := registry.library.add grammar }) := by
  unfold ask Request.add
  split <;> rfl

theorem add_eq (registry : Registry engine) (grammar : GrammarDef) :
    registry.add grammar =
      if grammar.scopeName.isEmpty then .error .missingScopeName
      else .ok { registry with library := registry.library.add grammar } := by
  rw [add, granted, ask_add]
  by_cases empty : grammar.scopeName.isEmpty
  · rw [if_pos empty, if_pos empty]
    rfl
  · rw [if_neg empty, if_neg empty]
    rfl

theorem ask_load (registry : Registry engine) (scope : String) :
    registry.ask (.load scope) =
      match registry.loaded.find? scope with
      | some tokenizer => (.ok tokenizer, registry)
      | none =>
        match registry.library.find? scope with
        | none => (.error (.unknownGrammar scope), registry)
        | some grammar =>
          match Tokenizer.ofGrammar engine grammar registry.library
            ((registry.languages.find? scope).getD {}) registry.theme with
          | .error error => (.error error, registry)
          | .ok tokenizer => (.ok tokenizer, registry.update scope tokenizer) := by
  have got (next : Registry engine → Request engine (Tokenizer engine)) :
      registry.ask (get >>= next) = registry.ask (next registry) := rfl
  unfold Request.load
  rw [got]
  cases registry.loaded.find? scope with
  | some tokenizer => rfl
  | none =>
    cases registry.library.find? scope with
    | none => rfl
    | some grammar =>
      dsimp only
      cases Tokenizer.ofGrammar engine grammar registry.library
        ((registry.languages.find? scope).getD {}) registry.theme <;> rfl

theorem ask_loadType (registry : Registry engine) (fileType : String) :
    registry.ask (.loadType fileType) =
      match registry.scopeFor? fileType with
      | some scope => registry.ask (.load scope)
      | none => (.error (.unknownGrammar fileType), registry) := by
  have got (next : Registry engine → Request engine (Tokenizer engine)) :
      registry.ask (get >>= next) = registry.ask (next registry) := rfl
  unfold Request.loadType
  rw [got]
  cases registry.scopeFor? fileType <;> rfl

theorem granted_eq_ok_iff : registry.granted request = .ok (a, after) ↔
    registry.ask request = (.ok a, after) := by
  unfold granted
  split
  · next is => simp [is]
  · next is => simp [is]

end Requests

/-! ## Changes of a registry -/

/-- A registry after a change. One that is refused changes nothing. -/
def apply : Change → Registry engine
  | .add grammar => (registry.add grammar).toOption.getD registry
  | .inject target injector => registry.inject target injector

/-- A registry after some changes. -/
def applyAll (changes : List Change) : Registry engine := changes.foldl apply registry

theorem apply_eq (change : Change) :
    registry.apply change = { registry with library := registry.library.apply change } := by
  cases change with
  | inject target injector => rfl
  | add grammar =>
    simp only [apply, add_eq, Library.apply, version?, asked]
    split
    · rfl
    · have same : registry.library.add grammar = (registry.library.injectAll
          (grammar.injectTo.map fun target => (target, grammar.scopeName))).put grammar := by
        rw [Library.add, Library.injectAll, List.foldl_map]
        rfl
      exact congrArg ({ registry with library := · }) same

theorem applyAll_eq (changes : List Change) :
    registry.applyAll changes = { registry with library := registry.library.applyAll changes } := by
  unfold applyAll Library.applyAll
  induction changes generalizing registry with
  | nil => rfl
  | cons change later ih => rw [List.foldl_cons, apply_eq, ih, List.foldl_cons]

/-- What loading a grammar can do: it was loaded before, or it is compiled now. -/
theorem cases_of_load {registry after : Registry engine} {scope : String}
    {tokenizer : Tokenizer engine} (run : registry.load scope = .ok (tokenizer, after)) :
    (registry.loaded.find? scope = some tokenizer ∧ after = registry) ∨
      (registry.loaded.find? scope = none ∧ after = registry.update scope tokenizer ∧
        ∃ grammar, registry.library.find? scope = some grammar ∧
          Tokenizer.ofGrammar engine grammar registry.library
            ((registry.languages.find? scope).getD {}) registry.theme = .ok tokenizer) := by
  rw [load, granted_eq_ok_iff, ask_load] at run
  split at run
  · next there =>
    cases run
    exact .inl ⟨there, rfl⟩
  · next missing =>
    split at run
    · cases run
    · next grammar found =>
      split at run
      · cases run
      · next compiled =>
        cases run
        exact .inr ⟨missing, rfl, grammar, found, compiled⟩

/-- What a registry has come to by some changes. Injectors come in the order in which a version of
them has asked first. -/
structure Reflects (changes : List Change) (registry : Registry engine) : Prop where
  version : ∀ scope, registry.library.find? scope = lastVersion? changes scope
  injectors : ∀ target,
    registry.library.injectorsOf target = (askers changes target).eraseDups
  retaining : Retaining changes → ∀ target injector,
    injector ∈ registry.library.injectorsOf target ↔ .inject target injector ∈ changes ∨
      ∃ last, lastVersion? changes injector = some last ∧ target ∈ last.injectTo
  loaded : ∀ scope tokenizer after, registry.load scope = .ok (tokenizer, after) →
    ∃ last, lastVersion? changes scope = some last ∧
      tokenizer.compilation.host = .ofDef last none ∧
      Tokenizer.Collection.Collects registry.library tokenizer.compilation
        (tokenizer.collected registry.library).1

/-- A new tokenizer is made from the grammar in the library, and injects what the library says. -/
theorem collects_load {registry after : Registry engine} {scope : String}
    {tokenizer : Tokenizer engine} (fresh : registry.loaded.find? scope = none)
    (run : registry.load scope = .ok (tokenizer, after)) :
    ∃ grammar, registry.library.find? scope = some grammar ∧
      tokenizer.compilation.host = .ofDef grammar none ∧
      Tokenizer.Collection.Collects registry.library tokenizer.compilation
        (tokenizer.collected registry.library).1 := by
  rcases cases_of_load run with ⟨there, -⟩ | ⟨-, rfl, grammar, found, compiled⟩
  · cases fresh.symm.trans there
  · obtain ⟨-, root, compilation, compiling, rfl⟩ := Tokenizer.ofGrammar_eq_ok_iff.mp compiled
    obtain ⟨-, host, -⟩ := Compilation.compileRoot_spec compiling
    exact ⟨grammar, found, host,
      Tokenizer.Collection.collects_ofCompilation compilation registry.library⟩

/-- Whatever was added, it is as if only the last version of each grammar had been, with all that
the earlier versions have asked for. -/
theorem versions_leave_targets (theme : Theme) (changes : List Change) :
    Reflects changes (({ theme } : Registry engine).applyAll changes) ∧
      ((versions (settled changes)).map GrammarDef.scopeName).Nodup ∧
      ({ theme } : Registry engine).applyAll (settled changes) =
        ({ theme } : Registry engine).applyAll changes := by
  have library : (({ theme } : Registry engine).applyAll changes).library =
      ({} : Library).applyAll changes := by rw [applyAll_eq]
  have injectors (target : String) :
      (({ theme } : Registry engine).applyAll changes).library.injectorsOf target =
        (askers changes target).eraseDups := by
    rw [library, Library.injectorsOf_applyAll]
  have version (scope : String) :
      (({ theme } : Registry engine).applyAll changes).library.find? scope =
        lastVersion? changes scope := by
    rw [library, Library.find?_applyAll]
  refine ⟨⟨version, injectors, fun retaining target injector => ?_,
    fun scope tokenizer after run => ?_⟩, nodup_settled changes, ?_⟩
  · rw [injectors, List.mem_eraseDups, mem_askers_of_retaining retaining]
  · have fresh : (({ theme } : Registry engine).applyAll changes).loaded.find? scope = none := by
      rw [applyAll_eq]
      rfl
    obtain ⟨last, is, rest⟩ := collects_load fresh run
    exact ⟨last, (version scope).symm.trans is, rest⟩
  · rw [applyAll_eq, applyAll_eq, Library.applyAll_settled]

/-- A grammar that injects itself wherever it is let into another one. -/
def letterA (targets : List String) : GrammarDef where
  scopeName := "A"
  patterns := [{ matchPattern := some "a" }]
  injectTo := targets
  injectionSelector := some "L:T"

/-- A grammar that asks to be injected into another one, but not any more in its last version. -/
def withdrawing : List Change :=
  [.add (letterA ["T"]), .add { scopeName := "T" }, .add (letterA [])]

/-- It is still injected there, although nothing asks for that any more. -/
theorem withdrawn_target_injected :
    ∃ (theme : Theme) (registry after : Registry Engine.literal)
      (tokenizer : Tokenizer Engine.literal),
      registry = ({ theme } : Registry Engine.literal).applyAll withdrawing ∧
      lastVersion? withdrawing "A" = some (letterA []) ∧ "T" ∉ (letterA []).injectTo ∧
      .inject "T" "A" ∉ withdrawing ∧ registry.load "T" = .ok (tokenizer, after) ∧
      ∃ injection ∈ (tokenizer.collected registry.library).1, injection.grammar = "A" := by
  let theme : Theme := ⟨none, {}, {}, {}⟩
  let registry := ({ theme } : Registry Engine.literal).applyAll withdrawing
  have checked : (registry.load "T").toOption.any (fun (tokenizer, _) =>
      tokenizer.injections.isNone &&
        (Tokenizer.Collection.ofCompilation tokenizer.compilation registry.library).injections.any
          fun injection => injection.grammar == "A") = true := by decide +kernel
  cases run : registry.load "T" with
  | error error =>
    rw [run] at checked
    cases checked
  | ok loaded =>
    obtain ⟨tokenizer, after⟩ := loaded
    rw [run] at checked
    obtain ⟨fresh, found⟩ := Bool.and_eq_true_iff.mp checked
    obtain ⟨injection, mem, is⟩ := List.any_eq_true.mp found
    refine ⟨theme, registry, after, tokenizer, rfl, rfl, List.not_mem_nil,
      by simp [withdrawing], run, injection, ?_, beq_iff_eq.mp is⟩
    simp only [Tokenizer.collected, Option.isNone_iff_eq_none.mp fresh]
    exact List.mem_mergeSort.mpr mem

end Registry

end ScopeTokenizer
