import ScopeTokenizer.Proofs.Grammar.Verdicts
import ScopeTokenizer.Proofs.Registry.Snapshots

/-!
# Calls of a registry

Grammars, injections, languages and themes may come to a registry in any order, and its grammars may
be loaded at any time, or fail to be. A call that fails leaves nothing behind, so a grammar that
lacked another one loads as soon as that is added. What is loaded stays: it is never compiled again,
and gets each new theme.
-/

namespace ScopeTokenizer

open Grammar Pattern Style Text

/-- What a registry may be asked for. -/
inductive Call where
  | add (grammar : GrammarDef)
  | addFile (content : Except FileFault String)
  | inject (target injector : String)
  | setLanguages (scope : String) (languages : Languages)
  | setTheme (theme : Theme)
  | load (scope : String)
  | loadType (fileType : String)

namespace Call

/-- What a call changes in the library. -/
def changes : Call → List Change
  | add grammar => [.add grammar]
  | addFile (.ok text) =>
    match GrammarDef.ofJson text with
    | .ok grammar => [.add grammar]
    | .error _ => []
  | inject target injector => [.inject target injector]
  | _ => []

/-- The theme that a call sets. -/
def theme? : Call → Option Theme
  | setTheme theme => some theme
  | _ => none

end Call

/-! ## Calls -/

/-- What a registry is asked for by a call. -/
def Call.request {engine : Engine} : Call → Registry.Request engine (Option (Tokenizer engine))
  | add grammar => do
    Registry.Request.add grammar
    return none
  | addFile content => do
    Registry.Request.addFile content
    return none
  | inject target injector => do
    modify fun registry => registry.inject target injector
    return none
  | setLanguages scope languages => do
    modify fun registry => registry.setLanguages scope languages
    return none
  | setTheme theme => do
    modify fun registry => registry.setTheme theme
    return none
  | load scope => some <$> Registry.Request.load scope
  | loadType fileType => some <$> Registry.Request.loadType fileType

namespace Registry

variable {engine : Engine} {registry after : Registry engine} {scope : String}
  {tokenizer : Tokenizer engine} {call : Call}

/-- Answers a call, with the tokenizer that was asked for. The registry after it is there whether
the call fails or not. -/
def answer (registry : Registry engine) (call : Call) :
    Except GrammarError (Option (Tokenizer engine)) × Registry engine :=
  registry.ask call.request

/-- The registry that is there after a call. -/
def afterCall (registry : Registry engine) (call : Call) : Registry engine :=
  (registry.answer call).2

/-- The registry that is there after some calls. -/
def afterCalls (registry : Registry engine) (calls : List Call) : Registry engine :=
  calls.foldl afterCall registry

/-! ## Refused requests -/

section Requests

variable {α β : Type}

theorem ask_map (registry : Registry engine) (f : α → β) (request : Request engine α) :
    registry.ask (f <$> request) = (registry.ask request).map (Except.map f) id := by
  change registry.ask (request >>= fun a => pure (f a)) = _
  unfold ask
  simp only [ExceptT.run_bind, StateT.run_bind]
  cases (request.run.run registry) with
  | mk answer after => cases answer <;> rfl

theorem ask_then (registry : Registry engine) (request : Request engine α) (b : β) :
    registry.ask (do let _ ← request; return b) =
      (registry.ask request).map (Except.map fun _ => b) id :=
  registry.ask_map (fun _ => b) request

namespace Request

/-- Where a request is refused, the registry is what it was before. -/
def Restores (request : Request engine α) : Prop :=
  ∀ (registry : Registry engine) error after,
    registry.ask request = (.error error, after) → after = registry

variable {request : Request engine α}

theorem Restores.map (restores : request.Restores) (f : α → β) :
    Restores (f <$> request) := by
  intro registry error after is
  rw [ask_map] at is
  cases asked : registry.ask request with
  | mk answer later =>
    rw [asked] at is
    cases answer with
    | ok a => cases is
    | error first =>
      cases is
      exact restores registry _ _ asked

theorem restores_modify (change : Registry engine → Registry engine) :
    Restores (modify change : Request engine Unit) := by
  rintro registry error after ⟨⟩

theorem restores_throw (error : GrammarError) : Restores (throw error : Request engine α) := by
  rintro registry other after ⟨⟩
  rfl

theorem restores_add (grammar : GrammarDef) : (add grammar : Request engine Unit).Restores := by
  intro registry error after is
  rw [ask_add] at is
  split at is <;> cases is
  rfl

theorem restores_addFile (content : Except FileFault String) :
    (addFile content : Request engine Unit).Restores := by
  unfold addFile
  split
  · exact restores_throw _
  · split
    · exact restores_throw _
    · exact restores_add _

theorem restores_load (scope : String) :
    (load scope : Request engine (Tokenizer engine)).Restores := by
  intro registry error after is
  rw [ask_load] at is
  split at is
  · cases is
  · split at is
    · cases is
      rfl
    · split at is <;> cases is
      rfl

theorem restores_loadType (fileType : String) :
    (loadType fileType : Request engine (Tokenizer engine)).Restores := by
  intro registry error after is
  rw [ask_loadType] at is
  split at is
  · exact restores_load _ _ _ _ is
  · cases is
    rfl

end Request

end Requests

/-- A call that fails leaves all of the registry as it was. -/
theorem restores_request (call : Call) : (call.request : Request engine _).Restores := by
  cases call with
  | add grammar => exact (Request.restores_add grammar).map _
  | addFile content => exact (Request.restores_addFile content).map _
  | inject | setLanguages | setTheme => exact (Request.restores_modify _).map _
  | load scope => exact (Request.restores_load scope).map _
  | loadType fileType => exact (Request.restores_loadType fileType).map _

/-! ## One call -/

/-- What a call leads to, as far as its result shows in the library, in the theme and in the
tokenizers. -/
structure Leads (call : Call) (registry after : Registry engine) : Prop where
  library : after.library = registry.library.applyAll call.changes
  theme : after.theme = call.theme?.getD registry.theme
  kept : ∀ scope tokenizer, registry.loaded.find? scope = some tokenizer →
    after.loaded.find? scope = some (call.theme?.elim tokenizer tokenizer.withTheme)
  new : ∀ scope tokenizer, registry.loaded.find? scope = none →
    after.loaded.find? scope = some tokenizer → tokenizer.styler.theme = after.theme

namespace Leads

/-- A call may change nothing but the library and the languages. -/
theorem of_loaded (library : after.library = registry.library.applyAll call.changes)
    (theme : after.theme = registry.theme) (none : call.theme? = none)
    (loaded : after.loaded = registry.loaded) : Leads call registry after where
  library := library
  theme := by rw [none, theme]; rfl
  kept := fun scope tokenizer there => by rw [none, loaded, there]; rfl
  new := fun scope tokenizer missing there => by
    rw [loaded, missing] at there
    cases there

theorem apply (change : Change) (changes : call.changes = [change]) (none : call.theme? = none) :
    Leads call registry (registry.apply change) := by
  rw [apply_eq]
  exact of_loaded (by rw [changes]; rfl) rfl none rfl

theorem unchanged (changes : call.changes = []) (none : call.theme? = none) :
    Leads call registry registry :=
  of_loaded (by rw [changes]; rfl) rfl none rfl

theorem load (changes : call.changes = []) (none : call.theme? = none)
    (run : registry.load scope = .ok (tokenizer, after)) : Leads call registry after := by
  have kept {other : String} {earlier : Tokenizer engine}
      (there : registry.loaded.find? other = some earlier) :
      after.loaded.find? other = some (call.theme?.elim earlier earlier.withTheme) := by
    rw [none]
    exact find?_loaded_of_load there run
  rcases cases_of_load run with ⟨-, rfl⟩ | ⟨-, rfl, grammar, -, compiled⟩
  · exact unchanged changes none
  · refine ⟨by rw [changes]; rfl, by rw [none]; rfl, fun _ _ there => kept there,
      fun other later missing there => ?_⟩
    by_cases same : scope = other
    · rw [same, find?_loaded_update] at there
      cases there
      exact congrArg Styler.theme (Tokenizer.styler_ofGrammar compiled)
    · rw [find?_loaded_update_of_ne registry same, missing] at there
      cases there

theorem setTheme (theme : Theme) : Leads (.setTheme theme) registry (registry.setTheme theme) where
  library := rfl
  theme := rfl
  kept := fun scope tokenizer there => by
    rw [Registry.setTheme, Keyed.find?_mapValues, there]
    rfl
  new := fun scope tokenizer missing there => by
    rw [Registry.setTheme, Keyed.find?_mapValues, missing] at there
    cases there

end Leads

theorem afterCall_add (registry : Registry engine) (grammar : GrammarDef) :
    registry.afterCall (.add grammar) = registry.apply (.add grammar) := by
  rw [afterCall, answer, Call.request, ask_then, ask_add, Registry.apply, add_eq]
  split <;> rfl

theorem afterCall_of_error {error : GrammarError}
    (failed : registry.answer call = (.error error, after)) :
    registry.afterCall call = registry := by
  rw [afterCall, failed]
  exact restores_request call registry error after failed

theorem leads_afterCall (registry : Registry engine) (call : Call) :
    Leads call registry (registry.afterCall call) := by
  have load (changes : call.changes = []) (none : call.theme? = none)
      {request : Request engine (Tokenizer engine)} (is : call.request = some <$> request)
      (restores : request.Restores)
      (loads : ∀ tokenizer after, registry.ask request = (.ok tokenizer, after) →
        ∃ scope, registry.load scope = .ok (tokenizer, after)) :
      Leads call registry (registry.afterCall call) := by
    rw [afterCall, answer, is, ask_map]
    cases asked : registry.ask request with
    | mk answer after =>
      cases answer with
      | error error =>
        obtain rfl := restores registry error after asked
        exact .unchanged changes none
      | ok tokenizer =>
        obtain ⟨scope, run⟩ := loads tokenizer after asked
        exact .load changes none run
  cases call with
  | add grammar => exact afterCall_add registry grammar ▸ .apply (.add grammar) rfl rfl
  | inject target injector => exact .apply (.inject target injector) rfl rfl
  | setLanguages scope languages => exact .of_loaded rfl rfl rfl rfl
  | setTheme theme => exact .setTheme theme
  | load scope =>
    exact load rfl rfl rfl (Request.restores_load scope) fun tokenizer after asked =>
      ⟨scope, granted_eq_ok_iff.mpr asked⟩
  | loadType fileType =>
    refine load rfl rfl rfl (Request.restores_loadType fileType) fun tokenizer after asked => ?_
    rw [ask_loadType] at asked
    split at asked
    · next scope _ => exact ⟨scope, granted_eq_ok_iff.mpr asked⟩
    · cases asked
  | addFile content =>
    cases content with
    | error fault => exact .unchanged rfl rfl
    | ok text =>
      cases read : GrammarDef.ofJson text with
      | ok grammar =>
        have same : registry.afterCall (.addFile (.ok text)) =
            registry.apply (.add grammar) := by
          rw [← afterCall_add]
          simp [afterCall, answer, Call.request, Request.addFile, read]
        exact same ▸ .apply (.add grammar) (by simp [Call.changes, read]) rfl
      | error fault =>
        have failed : registry.answer (.addFile (.ok text)) = (.error (.json fault), registry) := by
          simp only [answer, Call.request, Request.addFile, read]
          rfl
        rw [afterCall_of_error failed]
        exact .unchanged (by simp [Call.changes, read]) rfl

/-! ## Several calls -/

theorem library_afterCalls (registry : Registry engine) (calls : List Call) :
    (registry.afterCalls calls).library =
      registry.library.applyAll (calls.flatMap Call.changes) := by
  induction calls generalizing registry with
  | nil => rfl
  | cons call calls ih =>
    rw [List.flatMap_cons, Library.applyAll_append, ← (leads_afterCall registry call).library]
    exact ih _

/-- The theme that was set last is the present one. -/
theorem theme_afterCalls (registry : Registry engine) (calls : List Call) :
    (registry.afterCalls calls).theme = (calls.filterMap Call.theme?).getLastD registry.theme := by
  induction calls generalizing registry with
  | nil => rfl
  | cons call calls ih =>
    refine (ih _).trans ?_
    rw [(leads_afterCall registry call).theme, List.filterMap_cons]
    cases call.theme? with
    | none => rfl
    | some theme => rw [Option.getD_some, List.getLastD_cons]

/-- What is loaded stays, and gets each theme that is set. -/
theorem find?_loaded_afterCalls (calls : List Call)
    (there : registry.loaded.find? scope = some tokenizer) :
    (registry.afterCalls calls).loaded.find? scope =
      some ((calls.filterMap Call.theme?).foldl Tokenizer.withTheme tokenizer) := by
  induction calls generalizing registry tokenizer with
  | nil => exact there
  | cons call calls ih =>
    refine (ih ((leads_afterCall registry call).kept scope tokenizer there)).trans ?_
    rw [List.filterMap_cons]
    cases call.theme? with
    | none => rfl
    | some theme => rfl

/-- All tokenizers have the theme of the registry. -/
def Themed (registry : Registry engine) : Prop :=
  ∀ scope tokenizer, registry.loaded.find? scope = some tokenizer →
    tokenizer.styler.theme = registry.theme

theorem Themed.afterCall (themed : registry.Themed) (call : Call) :
    (registry.afterCall call).Themed := by
  intro scope tokenizer there
  have leads := leads_afterCall registry call
  cases before : registry.loaded.find? scope with
  | none => exact leads.new scope tokenizer before there
  | some earlier =>
    rw [leads.kept scope earlier before] at there
    cases there
    rw [leads.theme]
    cases call.theme? with
    | none => exact themed scope earlier before
    | some theme => rfl

theorem Themed.afterCalls (themed : registry.Themed) (calls : List Call) :
    (registry.afterCalls calls).Themed :=
  List.foldlRecOn calls Registry.afterCall themed fun _ themed call _ => themed.afterCall call

/-! ## Loading -/

/-- Whether the grammar with a scope name compiles, with the others of a library to include from. -/
def Compiles (library : Library) (scope : String) : Prop :=
  ∃ grammar root compilation, library.find? scope = some grammar ∧ grammar.scopeName ≠ "" ∧
    (Compilation.start grammar).compileRoot library = (.ok root, compilation)

theorem load_of_find? (there : registry.loaded.find? scope = some tokenizer) :
    registry.load scope = .ok (tokenizer, registry) := by
  rw [load, granted_eq_ok_iff, ask_load, there]

/-- It depends on the library alone whether a grammar loads that is not loaded yet. -/
theorem load_succeeds_iff : (∃ made, registry.load scope = .ok made) ↔
    (registry.loaded.find? scope).isSome ∨ Compiles registry.library scope := by
  cases before : registry.loaded.find? scope with
  | some tokenizer => exact ⟨fun _ => .inl rfl, fun _ => ⟨_, load_of_find? before⟩⟩
  | none =>
    simp only [Option.isSome_none, Bool.false_eq_true, false_or]
    constructor
    · rintro ⟨⟨tokenizer, after⟩, run⟩
      rcases cases_of_load run with ⟨there, -⟩ | ⟨-, -, grammar, found, compiled⟩
      · cases before.symm.trans there
      · obtain ⟨named, root, compilation, run, -⟩ := Tokenizer.ofGrammar_eq_ok_iff.mp compiled
        exact ⟨grammar, root, compilation, found, named, run⟩
    · rintro ⟨grammar, root, compilation, found, named, run⟩
      have compiled : Tokenizer.ofGrammar engine grammar registry.library
          ((registry.languages.find? scope).getD {}) registry.theme = .ok _ :=
        Tokenizer.ofGrammar_eq_ok_iff.mpr ⟨named, root, compilation, run, rfl⟩
      exact ⟨_, granted_eq_ok_iff.mpr (by rw [ask_load, before, found]; dsimp only; rw [compiled])⟩

/-- A grammar compiles if nothing that it reaches has a fault. -/
theorem compiles_of_faultless {sources : Sources} (wellFormed : sources.WellFormed)
    (plain : sources.Plain) (named : sources.host.scopeName ≠ "")
    (found : sources.library.find? scope = some sources.host)
    (faultless : ∀ node, sources.Reached node → ∀ error, ¬ sources.Fault node error) :
    Compiles sources.library scope := by
  have tries := Compilation.tries_compileRoot wellFormed plain
  have compiles := (tries.succeeds_iff fun _ _ advances numbered error =>
    advances.not_blames wellFormed Sources.ruleAt?_base numbered).mpr fun error blames => by
      obtain ⟨node, reached, fault⟩ := Compilation.blames_start_iff.mp blames
      exact faultless node reached error fault
  obtain ⟨root, compilation, run⟩ := compiles
  exact ⟨sources.host, root, compilation, found, named, run⟩

theorem ask_of_load_error {error : GrammarError} (failed : registry.load scope = .error error) :
    (registry.ask (.load scope)).2 = registry := by
  unfold load granted at failed
  split at failed
  · cases failed
  · next other after asked =>
    rw [asked]
    exact Request.restores_load scope registry other after asked

/-! ## Any calls -/

/-- What a registry is after some calls, if it was empty before and had a theme. -/
structure Upholds (theme : Theme) (calls : List Call) (registry : Registry engine) : Prop where
  theme : registry.theme = (calls.filterMap Call.theme?).getLastD theme
  themed : ∀ scope tokenizer, registry.loaded.find? scope = some tokenizer →
    tokenizer.styler.theme = registry.theme
  library : registry.library = ({} : Library).applyAll (calls.flatMap Call.changes)
  injectors : ∀ target, (registry.library.injectorsOf target).Nodup
  /-- What was loaded once is there from then on. It is not compiled again, whatever is added. -/
  kept : ∀ scope tokenizer after, registry.load scope = .ok (tokenizer, after) → ∀ later,
    let now := after.afterCalls later
    let present := (later.filterMap Call.theme?).foldl Tokenizer.withTheme tokenizer
    now.load scope = .ok (present, now) ∧
      ∀ fileType, now.scopeFor? fileType = some scope → now.loadType fileType = .ok (present, now)
  /-- A call that fails leaves the registry as it was, and so is as if it had not been made. -/
  refused : ∀ call error after, registry.answer call = (.error error, after) →
    after = registry ∧
      ∀ later, registry.afterCalls (call :: later) = registry.afterCalls later
  loads : ∀ scope, (∃ made, registry.load scope = .ok made) ↔
    (registry.loaded.find? scope).isSome ∨ Compiles registry.library scope
  /-- What failed to load may load when a grammar is added: it does if no fault is left. -/
  retried : ∀ scope error, registry.load scope = .error error → ∀ grammar,
    let again := registry.afterCalls [.load scope, .add grammar]
    again.library = registry.library.apply (.add grammar) ∧
      ((∃ made, again.load scope = .ok made) ↔ Compiles again.library scope) ∧
      ∀ sources : Sources, sources.library = again.library →
        again.library.find? scope = some sources.host → sources.WellFormed → sources.Plain →
        (∀ node, sources.Reached node → ∀ error, ¬ sources.Fault node error) →
          ∃ made, again.load scope = .ok made

theorem find?_loaded_of_load_self (run : registry.load scope = .ok (tokenizer, after)) :
    after.loaded.find? scope = some tokenizer := by
  rcases cases_of_load run with ⟨there, rfl⟩ | ⟨-, rfl, -⟩
  · exact there
  · exact find?_loaded_update registry scope tokenizer

/-- A grammar that is known has a scope name. -/
theorem named_of_find? {changes : List Change} {grammar : GrammarDef}
    (found : (({} : Library).applyAll changes).find? scope = some grammar) :
    grammar.scopeName ≠ "" := by
  rw [Library.find?_applyAll] at found
  have named := (Change.mem_versions.mp (Change.mem_versions_of_lastVersion? found).1).2
  exact fun empty => Bool.eq_false_iff.mp named (String.isEmpty_iff.mpr empty)

theorem retried_afterCalls {theme : Theme} {calls : List Call} {error : GrammarError}
    (failed : (({ theme } : Registry engine).afterCalls calls).load scope = .error error)
    (grammar : GrammarDef) :
    let registry := ({ theme } : Registry engine).afterCalls calls
    let again := registry.afterCalls [.load scope, .add grammar]
    again.library = registry.library.apply (.add grammar) ∧
      ((∃ made, again.load scope = .ok made) ↔ Compiles again.library scope) ∧
      ∀ sources : Sources, sources.library = again.library →
        again.library.find? scope = some sources.host → sources.WellFormed → sources.Plain →
        (∀ node, sources.Reached node → ∀ error, ¬ sources.Fault node error) →
          ∃ made, again.load scope = .ok made := by
  have library := library_afterCalls ({ theme } : Registry engine) calls
  generalize ({ theme } : Registry engine).afterCalls calls = registry at library failed
  have again : registry.afterCalls [.load scope, .add grammar] =
      { registry with library := registry.library.apply (.add grammar) } := by
    have load : registry.afterCall (.load scope) = registry := by
      rw [afterCall, answer, Call.request, ask_map]
      exact ask_of_load_error failed
    rw [afterCalls, List.foldl_cons, load, List.foldl_cons, List.foldl_nil, afterCall_add, apply_eq]
  have missing : registry.loaded.find? scope = none := by
    cases there : registry.loaded.find? scope with
    | none => rfl
    | some tokenizer => cases failed.symm.trans (load_of_find? there)
  dsimp only
  rw [again]
  have loads : (∃ made, Registry.load
      { registry with library := registry.library.apply (.add grammar) } scope = .ok made) ↔ _ :=
    load_succeeds_iff
  rw [missing, Option.isSome_none, Bool.false_eq_true, false_or] at loads
  refine ⟨rfl, loads, fun sources same found wellFormed plain faultless => loads.mpr ?_⟩
  have named : sources.host.scopeName ≠ "" := by
    have all : registry.library.apply (.add grammar) =
        ({} : Library).applyAll (calls.flatMap Call.changes ++ [.add grammar]) := by
      rw [Library.applyAll_append, ← library]
      rfl
    dsimp only at found
    rw [all] at found
    exact named_of_find? found
  dsimp only at same found ⊢
  rw [← same] at found ⊢
  exact compiles_of_faultless wellFormed plain named found faultless

theorem upholds_afterCalls (theme : Theme) (calls : List Call) :
    Upholds theme calls (({ theme } : Registry engine).afterCalls calls) where
  theme := theme_afterCalls _ calls
  themed := Themed.afterCalls (fun _ _ there => by cases there) calls
  library := library_afterCalls _ calls
  injectors := fun target => by
    rw [library_afterCalls]
    exact Library.nodup_injectorsOf_applyAll _ target
  kept := fun scope tokenizer after run later => by
    have present := load_of_find? (find?_loaded_afterCalls later (find?_loaded_of_load_self run))
    refine ⟨present, fun fileType is => granted_eq_ok_iff.mpr ?_⟩
    rw [ask_loadType, is]
    exact granted_eq_ok_iff.mp present
  refused := fun call error after failed => by
    refine ⟨restores_request call _ error after failed, fun later => ?_⟩
    rw [afterCalls, List.foldl_cons, afterCall_of_error failed]
    rfl
  loads := fun scope => load_succeeds_iff
  retried := fun scope error failed grammar => retried_afterCalls failed grammar

/-- A grammar that includes another one, which is missing. -/
def includingB : GrammarDef where
  scopeName := "A"
  patterns := [{ includeName := some "B" }]

/-- A registry to which it is added. -/
def lackingB : Registry Engine.literal :=
  ({ theme := ⟨none, {}, {}, {}⟩ } : Registry Engine.literal).afterCalls [.add includingB]

/-- The include that an error is about, after which comes the grammar in which it is written. -/
def unresolved? {α : Type} : Except GrammarError α → Option (String × String)
  | .error (.unresolvedInclude text grammar) => some (text, grammar)
  | _ => none

/-- It does not load at first, but it does when the other one is added. From then on it is loaded,
although it is replaced, and gets the next theme. -/
theorem missing_grammar_added :
    unresolved? (lackingB.load "A") = some ("B", "A") ∧
      ∃ tokenizer after,
        (lackingB.afterCalls [.load "A", .add { scopeName := "B" }]).load "A" =
          .ok (tokenizer, after) ∧
        ∀ theme : Theme,
          let now := after.afterCalls [.add { scopeName := "A" }, .setTheme theme]
          now.load "A" = .ok (tokenizer.withTheme theme, now) := by
  have lacks : unresolved? (lackingB.load "A") = some ("B", "A") := by decide +kernel
  have upholds : Upholds ⟨none, {}, {}, {}⟩ [.add includingB] lackingB := upholds_afterCalls _ _
  have again : Upholds ⟨none, {}, {}, {}⟩ [.add includingB, .load "A", .add { scopeName := "B" }]
    (lackingB.afterCalls [.load "A", .add { scopeName := "B" }]) := upholds_afterCalls _ _
  cases failed : lackingB.load "A" with
  | ok made =>
    rw [failed] at lacks
    cases lacks
  | error error =>
    obtain ⟨-, loads, -⟩ := upholds.retried "A" error failed { scopeName := "B" }
    let library := (lackingB.afterCalls [.load "A", .add { scopeName := "B" }]).library
    have compiles : Compiles library "A" := by
      have checked : ((Compilation.start includingB).compileRoot library).1.toOption.isSome := by
        decide +kernel
      cases run : (Compilation.start includingB).compileRoot library with
      | mk root compilation =>
        rw [run] at checked
        cases root with
        | error error => cases checked
        | ok root => exact ⟨includingB, root, compilation, rfl, by decide, run⟩
    obtain ⟨⟨tokenizer, after⟩, run⟩ := loads.mpr compiles
    exact ⟨failed ▸ lacks, tokenizer, after, run,
      fun theme => (again.kept "A" tokenizer after run _).1⟩

end Registry

end ScopeTokenizer
