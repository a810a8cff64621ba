import ScopeTokenizer.Theme.Definition
import ScopeTokenizer.Theme.Trie

/-!
# Compiled themes

A theme is compiled by cutting its entries into one rule per scope, sorting the rules,
and inserting them into a trie in that order. The rules without a scope sort first and
set the defaults.
-/

namespace ScopeTokenizer

open Style Text

namespace Theme

/-- An entry of a theme for one of its scopes. -/
structure ScopedEntry where
  scope : String
  /-- The scopes that have to enclose it, the closest first. -/
  parents : List String
  /-- The place of the entry in the theme. -/
  index : Nat
  font : Option Font
  foreground : Option String
  background : Option String
  deriving DecidableEq, Repr

/-- An entry with the given style, for a scope written after its parents. -/
def ScopedEntry.ofText (index : Nat) (settings : Settings) (text : String) : ScopedEntry :=
  let names := ((words Unicode.isBlank text.toList).map String.ofList).reverse
  { scope := names.head?.getD ""
    parents := names.drop 1
    index
    font := settings.fontStyle.map Font.ofText
    foreground := settings.foregroundColor
    background := settings.backgroundColor }

/-- One entry for each scope of each entry that has settings. An entry without scopes
counts as one for the empty scope. -/
def scopedEntries (definition : ThemeDef) : List ScopedEntry :=
  definition.entries.zipIdx.flatMap fun (entry, index) =>
    match entry.settings with
    | none => []
    | some settings => (entry.scope.getD [""]).map (ScopedEntry.ofText index settings)

/-- The order of two texts, character by character. -/
def compareText (a b : String) : Ordering := if a < b then .lt else if a = b then .eq else .gt

/-- The lexicographic order of two lists of texts. -/
def compareTexts : List String → List String → Ordering
  | [], [] => .eq
  | [], _ :: _ => .lt
  | _ :: _, [] => .gt
  | a :: as, b :: bs => (compareText a b).then (compareTexts as bs)

/-- Shorter lists of parents come first; lists of one length compare by their names. -/
def compareParents (a b : List String) : Ordering :=
  (compare a.length b.length).then (compareTexts a b)

/-- The order in which entries are compiled: by scope, then by parents, then as written. -/
def ScopedEntry.compare (a b : ScopedEntry) : Ordering :=
  ((compareText a.scope b.scope).then (compareParents a.parents b.parents)).then
    (Ord.compare a.index b.index)

/-- The entries in the order in which they are compiled. -/
def sortedEntries (definition : ThemeDef) : List ScopedEntry :=
  (scopedEntries definition).mergeSort fun a b => (a.compare b).isLE

/-- The style of text that no rule applies to, with colors as texts. -/
structure Defaults where
  font : Font := .plain
  foreground : String := "#000000"
  background : String := "#ffffff"
  deriving DecidableEq, Repr

/-- The defaults after an entry without a scope. -/
def Defaults.update (defaults : Defaults) (entry : ScopedEntry) : Defaults where
  font := entry.font.getD defaults.font
  foreground := entry.foreground.getD defaults.foreground
  background := entry.background.getD defaults.background

end Theme

/-- A compiled theme. -/
structure Theme where
  name : Option String
  colors : ColorMap
  /-- The style of text that no rule applies to. -/
  defaults : Theme.Rule
  trie : Theme.Trie

namespace Theme

/-- Numbers the colors of an entry, and inserts its rule. -/
def addEntry (state : ColorMap × Trie) (entry : ScopedEntry) : ColorMap × Trie :=
  let (foreground, colors) := state.1.intern entry.foreground
  let (background, colors) := colors.intern entry.background
  (colors, state.2.insert 0 (pathOf entry.scope) entry.parents
    ⟨entry.font, foreground, background⟩)

/-- Compiles a theme. -/
def ofDefinition (definition : ThemeDef) : Theme :=
  let entries := sortedEntries definition
  let defaults := (entries.takeWhile (·.scope == "")).foldl Defaults.update {}
  let (foreground, colors) := ColorMap.intern {} (some defaults.foreground)
  let (background, colors) := colors.intern (some defaults.background)
  let (colors, trie) := (entries.dropWhile (·.scope == "")).foldl addEntry (colors, {})
  { name := definition.name
    colors
    defaults := ⟨0, [], ⟨some defaults.font, foreground, background⟩⟩
    trie }

/-- The theme without entries: black on white. -/
def empty : Theme := ofDefinition {}

/-- The rules that may apply to a scope, the most specific first. The first whose parents
are found around the scope is the one that applies. -/
def rulesFor (theme : Theme) (scope : String) : List Rule := theme.trie.rulesAt (pathOf scope)

end Theme

end ScopeTokenizer
