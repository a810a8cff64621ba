import ScopeTokenizer.Json.Reader

/-!
# Values of any shape

Where one of several shapes is allowed, the whole value is read first and looked at
afterwards. A value that fits none of the shapes is a mismatch, wherever in it the
misfit lies.
-/

namespace ScopeTokenizer.Json

/-- A JSON value. The entries of an object stand in the order in which they are
written. -/
inductive Value where
  | null
  | bool (value : Bool)
  | number (value : Number)
  | string (text : String)
  | array (elements : List Value)
  | object (entries : List (String × Value))

/-- Reads a value that is nested at most `depth` deep. -/
def Reader.valueWithin : Nat → Reader Value
  | 0 => throw .malformed
  | depth + 1 => do
    match ← peek with
    | none => throw .unfinished
    | some 'n' => advance; pass (wordRest ['u', 'l', 'l']); return .null
    | some 't' => advance; pass (wordRest ['r', 'u', 'e']); return .bool true
    | some 'f' => advance; pass (wordRest ['a', 'l', 's', 'e']); return .bool false
    | some '"' => advance; return .string (← stringRest)
    | some '[' => return .array (← list (valueWithin depth))
    | some '{' => return .object (← map (valueWithin depth))
    | some c =>
      if c = '-' || Unicode.isAsciiDigit c then return .number (← number) else throw .malformed

/-- Reads a value of any shape. -/
def Reader.value : Reader Value := valueWithin (maxDepth + 1)

namespace Value

variable {α σ : Type}

/-- A string. -/
def string? : Value → Option String
  | string text => some text
  | _ => none

/-- `null`, or a value of the given shape. -/
def optional? (shape : Value → Option α) : Value → Option (Option α)
  | null => some none
  | value => (shape value).map some

/-- A boolean, or a whole number, of which only zero is false. -/
def flag? : Value → Option Bool
  | bool value => some value
  | number (.whole value) => some (value ≠ 0)
  | _ => none

/-- A field of a record that is taken from a value already read. -/
structure Slot (σ : Type) where
  name : String
  fill : Value → Option (σ → σ)

/-- Fills slots from the entries of an object. A slot may be filled once. -/
def fillByName (slots : List (Slot σ)) : List String → σ → List (String × Value) → Option σ
  | _, record, [] => some record
  | seen, record, (key, value) :: entries =>
    match slots.find? fun slot => slot.name = key with
    | none => fillByName slots seen record entries
    | some slot =>
      if seen.contains key then none
      else (slot.fill value).bind fun change =>
        fillByName slots (key :: seen) (change record) entries

/-- Fills slots in their order from the elements of an array, which may be fewer and not
more. -/
def fillInOrder : List (Slot σ) → σ → List Value → Option σ
  | _, record, [] => some record
  | [], _, _ :: _ => none
  | slot :: slots, record, value :: values =>
    (slot.fill value).bind fun change => fillInOrder slots (change record) values

/-- A record, from an object or from the array of its fields. -/
def record? (slots : List (Slot σ)) (empty : σ) : Value → Option σ
  | array elements => fillInOrder slots empty elements
  | object entries => fillByName slots [] empty entries
  | _ => none

end Value

/-- Reads a boolean, or a whole number, of which only zero is false. -/
def Reader.flag : Reader Bool := do
  match ← peek with
  | some 'n' => wrongShape
  | some '[' | some '{' =>
    if (← get).room = 0 then throw .malformed else throw .mismatch
  | _ =>
    match (← value).flag? with
    | some value => return value
    | none => throw .mismatch

end ScopeTokenizer.Json
