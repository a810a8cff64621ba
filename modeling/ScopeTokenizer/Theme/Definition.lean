import ScopeTokenizer.Json.Value
import ScopeTokenizer.Style.Color
import ScopeTokenizer.Text.Split

/-!
# Theme definitions

A theme as its author writes it: a list of entries, each with the scopes it is for and
the style it gives them.
-/

namespace ScopeTokenizer.Theme

open Json

/-- The style that an entry gives, as texts. -/
structure Settings where
  foreground : Option String := none
  background : Option String := none
  fontStyle : Option String := none
  deriving DecidableEq, Repr

/-- The foreground, if it is written as a color. -/
def Settings.foregroundColor (settings : Settings) : Option String :=
  settings.foreground.filter Style.isHexColor

/-- The background, if it is written as a color. -/
def Settings.backgroundColor (settings : Settings) : Option String :=
  settings.background.filter Style.isHexColor

/-- An entry of a theme. Without scopes it is for all text; without settings it is of no
effect. -/
structure EntryDef where
  scope : Option (List String) := none
  settings : Option Settings := none
  deriving DecidableEq, Repr

/-- A theme as written. -/
structure ThemeDef where
  name : Option String := none
  entries : List EntryDef := []
  deriving DecidableEq, Repr

/-- Drops the commas in front. -/
def dropCommas (text : List Char) : List Char := text.dropWhile (· == ',')

/-- The scopes of a comma-separated text. Commas at its ends separate nothing; blanks
are kept. -/
def scopesOfText (text : String) : List String :=
  let trimmed := (dropCommas (dropCommas text.toList).reverse).reverse
  (Text.pieces (· == ',') trimmed).map String.ofList

section Reading

open Reader

/-- Reads the scopes of an entry: one text, or a list of texts. -/
def scopes : Reader (List String) := do
  match ← peek with
  | some '"' => return scopesOfText (← string)
  | some '[' => list string
  | some '{' => if (← get).room = 0 then throw .malformed else throw .mismatch
  | _ => wrongShape

/-- The fields of settings in the order of their declaration. -/
def Settings.fields : List (FieldReader Settings) :=
  [ ⟨["foreground"], do
      let text ← optional string
      return fun s => { s with foreground := text }⟩,
    ⟨["background"], do
      let text ← optional string
      return fun s => { s with background := text }⟩,
    ⟨["fontStyle"], do
      let text ← optional string
      return fun s => { s with fontStyle := text }⟩ ]

/-- The fields of an entry in the order of their declaration. -/
def EntryDef.fields : List (FieldReader EntryDef) :=
  [ ⟨["scope"], do
      let names ← scopes
      return fun e => { e with scope := some names }⟩,
    ⟨["settings"], do
      let settings ← optional (record Settings.fields {} true)
      return fun e => { e with settings := settings }⟩ ]

/-- The fields of a theme in the order of their declaration. -/
def ThemeDef.fields : List (FieldReader ThemeDef) :=
  [ ⟨["name"], do
      let text ← optional string
      return fun t => { t with name := text }⟩,
    ⟨["settings", "tokenColors"], do
      let entries ← list (record EntryDef.fields {} false)
      return fun t => { t with entries := entries }⟩ ]

/-- Reads a theme from a JSON text. -/
def ThemeDef.ofJson (text : String) : Except Fault ThemeDef :=
  (record ThemeDef.fields {} false).run text

end Reading

end ScopeTokenizer.Theme
