import ScopeTokenizer.Grammar.Definition

/-!
# Libraries of grammars

The grammars that others may include, by their scope names, and which of them inject
themselves into which others.
-/

namespace ScopeTokenizer.Grammar

open Text

/-- The grammars that are known. -/
structure Library where
  grammars : Keyed GrammarDef := []
  /-- For each grammar those that are injected into it, in the order in which they asked
  for it. -/
  injectors : Keyed (List String) := []

namespace Library

/-- The grammar with a scope name. -/
def find? (library : Library) (scope : String) : Option GrammarDef := library.grammars.find? scope

/-- The grammars that are injected into one. -/
def injectorsOf (library : Library) (scope : String) : List String :=
  (library.injectors.find? scope).getD []

/-- Has a grammar injected into another one, unless it is already. -/
def inject (library : Library) (target injector : String) : Library :=
  let injectors := library.injectorsOf target
  if injectors.contains injector then library
  else { library with injectors := library.injectors.insert target (injectors ++ [injector]) }

/-- Adds a grammar, in place of one with the same scope name, and injects it where it asks
to be. -/
def add (library : Library) (grammar : GrammarDef) : Library :=
  let library := grammar.injectTo.foldl (fun library target =>
    library.inject target grammar.scopeName) library
  { library with grammars := library.grammars.insert grammar.scopeName grammar }

@[simp] theorem grammars_inject (library : Library) (target injector : String) :
    (library.inject target injector).grammars = library.grammars := by
  unfold inject
  dsimp only
  split <;> rfl

@[simp] theorem grammars_add (library : Library) (grammar : GrammarDef) :
    (library.add grammar).grammars = library.grammars.insert grammar.scopeName grammar := by
  have asked (targets : List String) : (targets.foldl (fun library target =>
      library.inject target grammar.scopeName) library).grammars = library.grammars := by
    induction targets generalizing library with
    | nil => rfl
    | cons target targets ih => rw [List.foldl_cons, ih, grammars_inject]
  rw [add, asked]

@[simp] theorem find?_add (library : Library) (grammar : GrammarDef) :
    (library.add grammar).find? grammar.scopeName = some grammar := by
  simp [find?]

end Library

mutual

/-- How many rules are written in a rule, itself included. -/
def RuleDef.size : RuleDef → Nat
  | ⟨_, _, _, _, captures, _, beginCaptures, _, endCaptures, _, whileCaptures, patterns,
      repository, _⟩ =>
    1 + entriesSize captures + entriesSize beginCaptures + entriesSize endCaptures +
      entriesSize whileCaptures + rulesSize patterns + repositorySize repository

/-- How many rules are written in the rules of a list. -/
def rulesSize : List RuleDef → Nat
  | [] => 0
  | rule :: rules => rule.size + rulesSize rules

/-- How many rules are written in the entries of a list. -/
def entriesSize : List (String × RuleDef) → Nat
  | [] => 0
  | (_, rule) :: entries => rule.size + entriesSize entries

/-- How many rules are written in a repository, if there is one. -/
def repositorySize : Option (List (String × RuleDef)) → Nat
  | none => 0
  | some entries => entriesSize entries

end

/-- How many rules are written in a grammar, counting the grammar as a rule. -/
def GrammarDef.size (grammar : GrammarDef) : Nat :=
  1 + rulesSize grammar.patterns + entriesSize grammar.repository +
    entriesSize grammar.injections

/-- How many rules are written in all grammars. -/
def Library.size (library : Library) : Nat :=
  library.grammars.foldl (fun total entry => total + entry.2.size) 0

end ScopeTokenizer.Grammar
