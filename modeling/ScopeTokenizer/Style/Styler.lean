import ScopeTokenizer.Scope.Path
import ScopeTokenizer.Text.Keyed
import ScopeTokenizer.Theme.Basic

/-!
# From scopes to metadata

A styler knows the theme and the languages of a grammar. It says what a scope alone
contributes to the metadata of text, and merges that into the metadata of the scopes
around it.
-/

namespace ScopeTokenizer.Style

open Text

/-- What a scope contributes to the metadata of the text in it. -/
structure ScopeStyle where
  scope : String
  language : UInt8
  kind : TokenKind
  /-- The theme rules that may apply, the most specific first. -/
  rules : List Theme.Rule

/-- The languages of a grammar's text. -/
structure Languages where
  /-- The language of text outside of any scope. -/
  initial : UInt8 := 0
  /-- The languages of embedded text, by the scopes that embed it. -/
  embedded : Keyed UInt8 := []
  deriving DecidableEq, Repr

/-- The languages and the theme by which a grammar's text is styled. -/
structure Styler where
  languages : Languages
  theme : Theme

namespace ScopeStyle

/-- The metadata of text in a scope that lies inside `outer`: that of the text around it,
with what the scope itself sets, and the attributes of the first rule whose parents
enclose it. -/
def mergeInto (style : ScopeStyle) (metadata : Metadata) (outer : Option ScopePath) : Metadata :=
  let applies (rule : Theme.Rule) : Bool :=
    match outer with
    | none => rule.parents.isEmpty
    | some path => path.encloses rule.parents
  match style.rules.find? applies with
  | some rule =>
    metadata.set style.language style.kind rule.look.font
      (.ofNat rule.look.foreground) (.ofNat rule.look.background)
  | none => metadata.set style.language style.kind none 0 0

end ScopeStyle

namespace Styler

/-- Of the scopes that embed a language and that a scope falls under, the longest decides
the scope's language. -/
def languageOf (styler : Styler) (scope : String) : UInt8 :=
  (styler.languages.embedded.foldl
    (fun best (embedding, language) =>
      if Scope.matchesSelector scope embedding && best.1 ≤ embedding.utf8ByteSize then
        (embedding.utf8ByteSize, language)
      else best)
    (0, 0)).2

/-- The style of a scope. -/
def styleOf (styler : Styler) (scope : String) : ScopeStyle where
  scope
  language := styler.languageOf scope
  kind := .ofScope scope
  rules := styler.theme.rulesFor scope

/-- The style of text outside of any scope. -/
def defaultStyle (styler : Styler) : ScopeStyle where
  scope := ""
  language := styler.languages.initial
  kind := .other
  rules := [styler.theme.defaults]

/-- The path of a grammar's own scope. -/
def rootPath (styler : Styler) (scope : String) : ScopePath :=
  let outside := styler.defaultStyle.mergeInto .unset none
  .root scope ((styler.styleOf scope).mergeInto outside none)

end Styler

end ScopeTokenizer.Style

namespace ScopeTokenizer.ScopePath

open Style

/-- Goes one scope further in. -/
def enter (path : ScopePath) (styler : Styler) (scope : String) : ScopePath :=
  .push path scope ((styler.styleOf scope).mergeInto path.metadata (some path))

/-- Goes further in by some scopes, the outermost one first. -/
def enterEach (path : ScopePath) (styler : Styler) (scopes : List String) : ScopePath :=
  scopes.foldl (fun path scope => path.enter styler scope) path

/-- The blank-separated scopes of a text. -/
def scopesOf (text : String) : List String :=
  (Text.words Unicode.isBlank text.toList).map String.ofList

/-- Goes further in by the scopes of a text, if there is one. -/
def enterAll (path : ScopePath) (styler : Styler) : Option String → ScopePath
  | none => path
  | some scopes => path.enterEach styler (scopesOf scopes)

@[simp] theorem enterAll_none (path : ScopePath) (styler : Styler) :
    path.enterAll styler none = path := rfl

@[simp] theorem enterEach_concat (path : ScopePath) (styler : Styler) (scopes : List String)
    (scope : String) :
    path.enterEach styler (scopes ++ [scope]) = (path.enterEach styler scopes).enter styler scope := by
  simp [enterEach]

@[simp] theorem names_enter (path : ScopePath) (styler : Styler) (scope : String) :
    (path.enter styler scope).names = path.names ++ [scope] := by
  simp [enter]

end ScopeTokenizer.ScopePath
