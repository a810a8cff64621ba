import ScopeTokenizer.Json.Value
import ScopeTokenizer.Text.Keyed

/-!
# Grammar definitions

A grammar as its author writes it: rules with patterns in source form, includes by
name, a repository of named rules, and the injections it makes into itself and into
other grammars. Nothing is checked here beyond the shape of the document.
-/

namespace ScopeTokenizer.Grammar

open Json Text

/-- A rule as written. Which fields are given decides what kind of rule it is. -/
structure RuleDef where
  /-- The rule stands for other rules, given by name. -/
  includeName : Option String := none
  /-- The scope of the whole match or region. -/
  name : Option String := none
  /-- The scope of what lies between the begin and the end of a region. -/
  contentName : Option String := none
  /-- The pattern of a rule that matches once. -/
  matchPattern : Option String := none
  captures : List (String × RuleDef) := []
  /-- The pattern that opens a region. -/
  beginPattern : Option String := none
  beginCaptures : List (String × RuleDef) := []
  /-- The pattern that closes a region; it may refer to the captures of its begin. -/
  endPattern : Option String := none
  endCaptures : List (String × RuleDef) := []
  /-- The pattern that every further line of a region has to match. -/
  whilePattern : Option String := none
  whileCaptures : List (String × RuleDef) := []
  /-- The rules tried inside a region, or grouped by a container. -/
  patterns : List RuleDef := []
  /-- Named rules that only the rules below this one see. -/
  repository : Option (List (String × RuleDef)) := none
  /-- The inner rules are tried before the end pattern. -/
  endPatternLast : Bool := false

/-- A grammar as written. -/
structure GrammarDef where
  /-- The name by which grammars include one another. -/
  scopeName : String := ""
  /-- The name for people. -/
  name : Option String := none
  fileTypes : List String := []
  firstLineMatch : Option String := none
  patterns : List RuleDef := []
  repository : Keyed RuleDef := []
  /-- Rules injected wherever a selector matches, in the order of the selector texts. -/
  injections : Keyed RuleDef := []
  /-- Where the whole grammar is injected, when it is injected into another one. -/
  injectionSelector : Option String := none
  /-- The grammars it is injected into. -/
  injectTo : List String := []

namespace RuleDef

/-- A rule that only names a scope, which is what most captures are. -/
def ofName (name : String) : RuleDef := { name := some name }

/-- Whether anything would be tried inside the rule. -/
def hasPatterns (rule : RuleDef) : Bool := !rule.patterns.isEmpty

section Values

open Value

/-- All elements, each of the same shape. -/
def all? {α : Type} (shape : Value → Option α) : Value → Option (List α)
  | .array elements => elements.mapM shape
  | _ => none

/-- All entries, each value of the same shape. -/
def entries? {α : Type} (shape : Value → Option α) : Value → Option (Keyed α)
  | .object entries =>
    (entries.mapM fun entry => (shape entry.2).map (entry.1, ·)).map Keyed.ofEntries
  | _ => none

/-- A capture: a rule, or the name of a rule that does no more than name a scope. -/
def captureOf? (rule : Value → Option RuleDef) : Value → Option RuleDef
  | .string name => some (ofName name)
  | value => rule value

/-- The fields of a rule that is part of a value already read, in the order of their
declaration. -/
def slots (rule : Value → Option RuleDef) : List (Slot RuleDef) :=
  let text (name : String) (set : Option String → RuleDef → RuleDef) : Slot RuleDef :=
    ⟨name, fun value => (optional? string? value).map set⟩
  let captures (name : String) (set : Keyed RuleDef → RuleDef → RuleDef) : Slot RuleDef :=
    ⟨name, fun value => (entries? (captureOf? rule) value).map set⟩
  [ text "include" fun v r => { r with includeName := v },
    text "name" fun v r => { r with name := v },
    text "contentName" fun v r => { r with contentName := v },
    text "match" fun v r => { r with matchPattern := v },
    captures "captures" fun v r => { r with captures := v },
    text "begin" fun v r => { r with beginPattern := v },
    captures "beginCaptures" fun v r => { r with beginCaptures := v },
    text "end" fun v r => { r with endPattern := v },
    captures "endCaptures" fun v r => { r with endCaptures := v },
    text "while" fun v r => { r with whilePattern := v },
    captures "whileCaptures" fun v r => { r with whileCaptures := v },
    ⟨"patterns", fun value => (all? rule value).map fun v r => { r with patterns := v }⟩,
    ⟨"repository", fun value =>
      (optional? (entries? rule) value).map fun v r => { r with repository := v }⟩,
    ⟨"applyEndPatternLast", fun value =>
      (flag? value).map fun v r => { r with endPatternLast := v }⟩ ]

/-- A rule from a value, of which at most `depth` levels are looked at. -/
def ofValue? : Nat → Value → Option RuleDef
  | 0, _ => none
  | depth + 1, value => record? (slots (ofValue? depth)) {} value

end Values

section Reading

open Reader

/-- An entry map, in which a later entry replaces an earlier one with its key. -/
def keyed {α : Type} (value : Reader α) : Reader (Keyed α) := do
  return Keyed.ofEntries (← map value)

/-- A capture, read as a whole before its shape is looked at. -/
def capture : Reader RuleDef := do
  match captureOf? (ofValue? maxDepth) (← value) with
  | some rule => return rule
  | none => throw .mismatch

/-- The fields of a rule in the order of their declaration. -/
def fields (rule : Reader RuleDef) : List (FieldReader RuleDef) :=
  let text (name : String) (set : Option String → RuleDef → RuleDef) : FieldReader RuleDef :=
    ⟨[name], do return set (← optional string)⟩
  let captures (name : String) (set : Keyed RuleDef → RuleDef → RuleDef) :
      FieldReader RuleDef :=
    ⟨[name], do return set (← keyed capture)⟩
  [ text "include" fun v r => { r with includeName := v },
    text "name" fun v r => { r with name := v },
    text "contentName" fun v r => { r with contentName := v },
    text "match" fun v r => { r with matchPattern := v },
    captures "captures" fun v r => { r with captures := v },
    text "begin" fun v r => { r with beginPattern := v },
    captures "beginCaptures" fun v r => { r with beginCaptures := v },
    text "end" fun v r => { r with endPattern := v },
    captures "endCaptures" fun v r => { r with endCaptures := v },
    text "while" fun v r => { r with whilePattern := v },
    captures "whileCaptures" fun v r => { r with whileCaptures := v },
    ⟨["patterns"], do
      let rules ← list rule
      return fun r => { r with patterns := rules }⟩,
    ⟨["repository"], do
      let rules ← optional (keyed rule)
      return fun r => { r with repository := rules }⟩,
    ⟨["applyEndPatternLast"], do
      let last ← flag
      return fun r => { r with endPatternLast := last }⟩ ]

/-- Reads a rule that is nested at most `depth` rules deep. -/
def reader : Nat → Reader RuleDef
  | 0 => throw .malformed
  | depth + 1 => record (fields (reader depth)) {} false

end Reading

end RuleDef

namespace GrammarDef

open Reader RuleDef

/-- The fields of a grammar in the order of their declaration. -/
def fields : List (FieldReader GrammarDef) :=
  let rule := RuleDef.reader (maxDepth + 1)
  [ ⟨["scopeName"], do
      let text ← string
      return fun g => { g with scopeName := text }⟩,
    ⟨["name"], do
      let text ← optional string
      return fun g => { g with name := text }⟩,
    ⟨["fileTypes"], do
      let types ← list string
      return fun g => { g with fileTypes := types }⟩,
    ⟨["firstLineMatch"], do
      let text ← optional string
      return fun g => { g with firstLineMatch := text }⟩,
    ⟨["patterns"], do
      let rules ← list rule
      return fun g => { g with patterns := rules }⟩,
    ⟨["repository"], do
      let rules ← keyed rule
      return fun g => { g with repository := rules }⟩,
    ⟨["injections"], do
      let rules ← keyed rule
      return fun g => { g with injections := rules }⟩,
    ⟨["injectionSelector"], do
      let text ← optional string
      return fun g => { g with injectionSelector := text }⟩,
    ⟨["injectTo"], do
      let scopes ← list string
      return fun g => { g with injectTo := scopes }⟩ ]

/-- Reads a grammar from a JSON text. -/
def ofJson (text : String) : Except Fault GrammarDef := (record fields {} false).run text

end GrammarDef

end ScopeTokenizer.Grammar
