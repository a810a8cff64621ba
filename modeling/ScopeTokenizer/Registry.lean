import ScopeTokenizer.Text.Quoted
import ScopeTokenizer.Tokenizer.Reading

/-!
# Registries

A registry holds grammars and a theme, and makes tokenizers from them. A grammar is compiled
when its tokenizer is first asked for, and never again. A change of the theme reaches all
tokenizers.
-/

namespace ScopeTokenizer

open Grammar Pattern Style Text

/-- Grammars, a theme, and the tokenizers made from them. -/
structure Registry (engine : Engine) where
  library : Library := {}
  theme : Theme
  /-- The languages of the grammars for which some were set, by scope names. -/
  languages : Keyed Languages := []
  /-- The tokenizers made so far, by scope names. -/
  loaded : Keyed (Tokenizer engine) := []

namespace Registry

variable {engine : Engine}

/-- Something that a registry is asked for. What was done before an error is kept. -/
abbrev Request (engine : Engine) := ExceptT GrammarError (StateM (Registry engine))

/-- Has a grammar injected into another one. -/
def inject (registry : Registry engine) (target injector : String) : Registry engine :=
  { registry with library := registry.library.inject target injector }

/-- Sets the languages for the tokenizer of a grammar, if that is not made yet. -/
def setLanguages (registry : Registry engine) (scope : String) (languages : Languages) :
    Registry engine :=
  { registry with languages := registry.languages.insert scope languages }

/-- Whether there is a grammar with a scope name. -/
def contains (registry : Registry engine) (scope : String) : Bool :=
  (registry.library.find? scope).isSome

/-- Puts a tokenizer in place of the one of its grammar. -/
def update (registry : Registry engine) (scope : String) (tokenizer : Tokenizer engine) :
    Registry engine :=
  { registry with loaded := registry.loaded.insert scope tokenizer }

/-- The scope name of the grammar for a type of files. -/
def scopeFor? (registry : Registry engine) (fileType : String) : Option String :=
  let handles (entry : String × GrammarDef) : Bool := entry.2.fileTypes.contains fileType
  (List.find? handles registry.library.grammars).map fun entry => entry.2.scopeName

namespace Request

/-- Adds a grammar, in place of one with the same scope name. Tokenizers made before stay as
they are. -/
def add (grammar : GrammarDef) : Request engine Unit := do
  if grammar.scopeName.isEmpty then throw .missingScopeName
  modify fun registry => { registry with library := registry.library.add grammar }

/-- Adds the grammar that a file holds, given the text of the file or why it cannot be had. -/
def addFile (content : Except FileFault String) : Request engine Unit := do
  match content with
  | .error fault => throw (.file fault)
  | .ok text =>
    match GrammarDef.ofJson text with
    | .error fault => throw (.json fault)
    | .ok grammar => add grammar

/-- The tokenizer of a grammar, which is made if it was not before. -/
def load (scope : String) : Request engine (Tokenizer engine) := do
  let registry ← get
  match registry.loaded.find? scope with
  | some tokenizer => return tokenizer
  | none =>
    match registry.library.find? scope with
    | none => throw (.unknownGrammar scope)
    | some grammar =>
      let languages := (registry.languages.find? scope).getD {}
      match Tokenizer.ofGrammar engine grammar registry.library languages registry.theme with
      | .error error => throw error
      | .ok tokenizer =>
        modify fun registry => registry.update scope tokenizer
        return tokenizer

/-- The tokenizer of the grammar for a type of files. -/
def loadType (fileType : String) : Request engine (Tokenizer engine) := do
  match (← get).scopeFor? fileType with
  | some scope => load scope
  | none => throw (.unknownGrammar fileType)

end Request

/-- What a registry answers, with the registry after that. -/
def ask {α : Type} (registry : Registry engine) (request : Request engine α) :
    Except GrammarError α × Registry engine :=
  request.run.run registry

/-- What a registry answers, with the registry after that unless the answer is an error. -/
def granted {α : Type} (registry : Registry engine) (request : Request engine α) :
    Except GrammarError (α × Registry engine) :=
  match registry.ask request with
  | (.ok answer, after) => .ok (answer, after)
  | (.error error, _) => .error error

/-- Adds a grammar. -/
def add (registry : Registry engine) (grammar : GrammarDef) :
    Except GrammarError (Registry engine) :=
  (registry.granted (Request.add grammar)).map Prod.snd

/-- Adds the grammar that a file holds. -/
def addFile (registry : Registry engine) (content : Except FileFault String) :
    Except GrammarError (Registry engine) :=
  (registry.granted (Request.addFile content)).map Prod.snd

/-- The tokenizer of a grammar. -/
def load (registry : Registry engine) (scope : String) :
    Except GrammarError (Tokenizer engine × Registry engine) :=
  registry.granted (Request.load scope)

/-- The tokenizer of the grammar for a type of files. -/
def loadType (registry : Registry engine) (fileType : String) :
    Except GrammarError (Tokenizer engine × Registry engine) :=
  registry.granted (Request.loadType fileType)

/-- Goes on with another theme. -/
def setTheme (registry : Registry engine) (theme : Theme) : Registry engine :=
  { registry with
    theme
    loaded := registry.loaded.mapValues fun tokenizer => tokenizer.withTheme theme }

/-- A registry, described by its grammars and by how many of them are in use. -/
def describe (registry : Registry engine) : String :=
  let grammars := quoteList registry.library.grammars.keys
  let loaded := registry.loaded.length
  s!"Registry \x7b grammars: {grammars}, loaded: {loaded}, .. \x7d"

@[simp] theorem theme_setTheme (registry : Registry engine) (theme : Theme) :
    (registry.setTheme theme).theme = theme := rfl

@[simp] theorem library_setTheme (registry : Registry engine) (theme : Theme) :
    (registry.setTheme theme).library = registry.library := rfl

end Registry

end ScopeTokenizer
