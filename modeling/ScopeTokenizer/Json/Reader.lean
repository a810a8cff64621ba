import ScopeTokenizer.Json.Token

/-!
# Typed reading of JSON texts

A reader takes a value of one type off the front of a JSON text. Readers are put
together from the shapes that documents have: strings, lists, maps and records. A
text is read once, from front to back, so the fault that is reported is the first one
met, whether the text is no JSON at all or JSON of another shape.

Containers may be nested at most 127 deep in the parts of a document that are read;
parts that are skipped may be nested at will.
-/

namespace ScopeTokenizer.Json

/-- The text left to read, and how many levels of containers may still be entered. -/
structure Source where
  text : List Char
  room : Nat

/-- Takes a value off the front of a JSON text. -/
abbrev Reader := StateT Source (Except Fault)

/-- The deepest nesting of containers that is read. -/
def maxDepth : Nat := 127

namespace Reader

variable {α β σ : Type}

/-- Drops the blanks in front, and looks at the next character. -/
def peek : Reader (Option Char) := do
  modify fun source => { source with text := source.text.dropWhile isSpace }
  return (← get).text.head?

/-- Drops the next character. -/
def advance : Reader Unit := modify fun source => { source with text := source.text.drop 1 }

/-- Runs a step on the text in front. -/
def step (read : List Char → Except Fault (α × List Char)) : Reader α := do
  let source ← get
  let (value, rest) ← read source.text
  set { source with text := rest }
  return value

/-- Runs a step that only passes over text. -/
def pass (read : List Char → Except Fault (List Char)) : Reader Unit :=
  step fun text => (read text).map fun rest => ((), rest)

/-- The rest of a string after its opening quote. -/
def stringRest : Reader String := do
  return String.ofList (← step (stringBody none))

/-- A number, with its sign. -/
def number : Reader Number := do
  match ← peek with
  | some '-' =>
    advance
    step (unsignedNumber true)
  | _ => step (unsignedNumber false)

/-- Reports a value of the wrong shape. A scalar is read to its end first, since it may
turn out to be no JSON at all. -/
def wrongShape : Reader α := do
  match ← peek with
  | none => throw .unfinished
  | some 'n' => advance; pass (wordRest ['u', 'l', 'l']); throw .mismatch
  | some 't' => advance; pass (wordRest ['r', 'u', 'e']); throw .mismatch
  | some 'f' => advance; pass (wordRest ['a', 'l', 's', 'e']); throw .mismatch
  | some '"' => advance; discard stringRest; throw .mismatch
  | some '[' => throw .mismatch
  | some '{' => throw .mismatch
  | some c =>
    if c = '-' || Unicode.isAsciiDigit c then
      discard number
      throw .mismatch
    else throw .malformed

/-- A string. -/
def string : Reader String := do
  match ← peek with
  | some '"' => advance; stringRest
  | _ => wrongShape

/-- `null`, or a value. -/
def optional (value : Reader α) : Reader (Option α) := do
  match ← peek with
  | some 'n' => advance; pass (wordRest ['u', 'l', 'l']); return none
  | _ => return some (← value)

/-- Enters a container for the time of reading its contents. -/
def nested (contents : Reader α) : Reader α := do
  let source ← get
  if source.room = 0 then throw .malformed
  set { source with text := source.text.drop 1, room := source.room - 1 }
  let value ← contents
  modify fun inner => { inner with room := source.room }
  return value

/-- Whether another element follows in an array. -/
def moreElements (first : Bool) : Reader Bool := do
  match ← peek with
  | none => throw .unfinished
  | some ']' => return false
  | some c =>
    if first then return true
    else if c = ',' then
      advance
      match ← peek with
      | none => throw .unfinished
      | some ']' => throw .malformed
      | some _ => return true
    else throw .malformed

/-- Whether another key follows in an object. -/
def moreKeys (first : Bool) : Reader Bool := do
  match ← peek with
  | none => throw .unfinished
  | some '}' => return false
  | some c =>
    if first then
      if c = '"' then return true else throw .malformed
    else if c = ',' then
      advance
      match ← peek with
      | none => throw .unfinished
      | some '"' => return true
      | some _ => throw .malformed
    else throw .malformed

/-- The closing bracket of an array, of which no element is left to read. -/
def closeArray : Reader Unit := do
  match ← peek with
  | none => throw .unfinished
  | some ']' => advance
  | some _ => throw .malformed

/-- The closing brace of an object. -/
def closeObject : Reader Unit := do
  match ← peek with
  | none => throw .unfinished
  | some '}' => advance
  | some _ => throw .malformed

/-- The colon after a key. -/
def colon : Reader Unit := do
  match ← peek with
  | none => throw .unfinished
  | some ':' => advance
  | some _ => throw .malformed

/-- The elements left in an array. An element takes at least one character, so the
length of the text bounds their number. -/
def elements (element : Reader α) : Nat → Bool → Reader (List α)
  | 0, _ => throw .unfinished
  | bound + 1, first => do
    if ← moreElements first then
      let value ← element
      return value :: (← elements element bound false)
    else return []

/-- The entries left in an object, in the order in which they are written. -/
def entries (value : Reader α) : Nat → Bool → Reader (List (String × α))
  | 0, _ => throw .unfinished
  | bound + 1, first => do
    if ← moreKeys first then
      advance
      let key ← stringRest
      colon
      let value' ← value
      return (key, value') :: (← entries value bound false)
    else return []

/-- The length of the text left, with one to spare: a bound on the number of steps that
each take a character. -/
def stepBound : Reader Nat := do
  return (← get).text.length + 1

/-- An array whose elements are all read alike. -/
def list (element : Reader α) : Reader (List α) := do
  match ← peek with
  | some '[' =>
    let values ← nested do elements element (← stepBound) true
    closeArray
    return values
  | _ => wrongShape

/-- An object whose values are all read alike, in the order in which it is written. -/
def map (value : Reader α) : Reader (List (String × α)) := do
  match ← peek with
  | some '{' =>
    let values ← nested do entries value (← stepBound) true
    closeObject
    return values
  | _ => wrongShape

/-- Passes over the rest of an object's entries. -/
def skipEntries (value : Reader Unit) : Nat → Bool → Reader Unit
  | 0, _ => throw .unfinished
  | bound + 1, first => do
    if ← moreKeys first then
      advance
      pass Json.skipString
      colon
      value
      skipEntries value bound false

/-- Passes over a value of any shape, nested at most `depth` deep. -/
def skipValue : Nat → Reader Unit
  | 0 => throw .unfinished
  | depth + 1 => do
    match ← peek with
    | none => throw .unfinished
    | some 'n' => advance; pass (wordRest ['u', 'l', 'l'])
    | some 't' => advance; pass (wordRest ['r', 'u', 'e'])
    | some 'f' => advance; pass (wordRest ['a', 'l', 's', 'e'])
    | some '"' => advance; pass Json.skipString
    | some '[' =>
      advance
      discard <| elements (skipValue depth) (← stepBound) true
      closeArray
    | some '{' =>
      advance
      skipEntries (skipValue depth) (← stepBound) true
      closeObject
    | some c =>
      if c = '-' || Unicode.isAsciiDigit c then pass Json.skipNumber else throw .malformed

/-- Passes over a value of any shape. -/
def skip : Reader Unit := do skipValue (← stepBound)

end Reader

/-- A field of a record: the names it goes by, and how its value changes the record. -/
structure FieldReader (σ : Type) where
  names : List String
  read : Reader (σ → σ)

namespace Reader

variable {σ : Type}

/-- Reads the fields of an object into a record. A field may be given once; keys that
name no field are passed over. -/
def objectFields (fields : List (FieldReader σ)) : Nat → Bool → List Nat → σ → Reader σ
  | 0, _, _, _ => throw .unfinished
  | bound + 1, first, seen, record => do
    if ← moreKeys first then
      advance
      let key ← stringRest
      match fields.findIdx? fun field => field.names.contains key with
      | none =>
        colon
        skip
        objectFields fields bound false seen record
      | some index =>
        if seen.contains index then throw .mismatch
        colon
        match fields[index]? with
        | none => objectFields fields bound false seen record
        | some field =>
          let change ← field.read
          objectFields fields bound false (index :: seen) (change record)
    else return record

/-- Reads the elements of an array into the fields of a record, in their order. -/
def arrayFields (complete : Bool) : List (FieldReader σ) → Bool → σ → Reader σ
  | [], _, record => return record
  | field :: fields, first, record => do
    if ← moreElements first then
      let change ← field.read
      arrayFields complete fields false (change record)
    else if complete then throw .mismatch
    else return record

/-- A record, written as an object or as the array of its fields. Fields that are not
given keep the value they have in `empty`; `complete` asks for all of them in an array. -/
def record (fields : List (FieldReader σ)) (empty : σ) (complete : Bool) : Reader σ := do
  match ← peek with
  | some '[' =>
    let value ← nested (arrayFields complete fields true empty)
    closeArray
    return value
  | some '{' =>
    let value ← nested do objectFields fields (← stepBound) true [] empty
    closeObject
    return value
  | _ => wrongShape

/-- Reads a whole text as one value. -/
def run {α : Type} (reader : Reader α) (text : String) : Except Fault α := do
  let (value, source) ← StateT.run reader ⟨text.toList, maxDepth⟩
  if (source.text.dropWhile isSpace).isEmpty then return value else throw .malformed

end Reader

end ScopeTokenizer.Json
