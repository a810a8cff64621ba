import ScopeTokenizer.Text.Encoded
import ScopeTokenizer.Unicode.Classes

/-!
# Scalars of JSON texts

Reading the parts of a JSON text that hold no other values: strings, numbers and the
three words. Every function takes the text that is left and gives back what it read
with the text after it, or the first fault it met.
-/

namespace ScopeTokenizer.Json

/-- What can be wrong with a JSON text. -/
inductive Fault where
  /-- The text is not JSON. -/
  | malformed
  /-- The text is JSON so far, and of another shape than the one asked for. -/
  | mismatch
  /-- The text ends too early. -/
  | unfinished
  deriving DecidableEq, Repr

/-- The name of a fault's category. -/
def Fault.category : Fault → String
  | malformed => "syntax"
  | mismatch => "data"
  | unfinished => "eof"

/-- A number, as far as its kind can matter: whole numbers that fit 64 bits, and all
others. -/
inductive Number where
  | whole (value : Int)
  | other
  deriving DecidableEq, Repr

/-- The blanks allowed between tokens. -/
def isSpace (c : Char) : Bool := c == ' ' || c == '\n' || c == '\t' || c == '\r'

/-- The value of a hexadecimal digit. -/
def hexDigit? (c : Char) : Option Nat :=
  if '0' ≤ c && c ≤ '9' then some (c.toNat - '0'.toNat)
  else if 'a' ≤ c && c ≤ 'f' then some (c.toNat - 'a'.toNat + 10)
  else if 'A' ≤ c && c ≤ 'F' then some (c.toNat - 'A'.toNat + 10)
  else none

/-- The code unit of four hexadecimal digits. -/
def codeUnit? (a b c d : Char) : Option Nat := do
  return (((← hexDigit? a) * 16 + (← hexDigit? b)) * 16 + (← hexDigit? c)) * 16 + (← hexDigit? d)

/-- The character that a backslash and a letter stand for. -/
def simpleEscape? : Char → Option Char
  | '"' => some '"'
  | '\\' => some '\\'
  | '/' => some '/'
  | 'b' => some '\x08'
  | 'f' => some '\x0c'
  | 'n' => some '\n'
  | 'r' => some '\r'
  | 't' => some '\t'
  | _ => none

/-- A code unit that begins a surrogate pair. -/
def isLeading (unit : Nat) : Bool := 0xd800 ≤ unit && unit ≤ 0xdbff

/-- A code unit that ends a surrogate pair. -/
def isTrailing (unit : Nat) : Bool := 0xdc00 ≤ unit && unit ≤ 0xdfff

/-- Reads the rest of a string, up to and including its closing quote. `pending` is the
first half of a surrogate pair whose second half has to follow at once. -/
def stringBody (pending : Option Nat) : List Char → Except Fault (List Char × List Char)
  | [] => .error .unfinished
  | '\\' :: 'u' :: a :: b :: c :: d :: rest =>
    match codeUnit? a b c d, pending with
    | none, _ => .error .malformed
    | some unit, none =>
      if isTrailing unit then .error .malformed
      else if isLeading unit then stringBody (some unit) rest
      else (stringBody none rest).map fun (text, rest) => (Char.ofNat unit :: text, rest)
    | some unit, some leading =>
      if isTrailing unit then
        (stringBody none rest).map fun (text, rest) =>
          (Char.ofNat ((leading - 0xd800) * 0x400 + (unit - 0xdc00) + 0x10000) :: text, rest)
      else .error .malformed
  | '\\' :: 'u' :: rest => .error (if Text.encodedLength rest < 4 then .unfinished else .malformed)
  | '\\' :: [] => .error .unfinished
  | c :: rest =>
    match pending with
    | some _ => .error .malformed
    | none =>
      if c = '"' then .ok ([], rest)
      else if c.toNat < 0x20 then .error .malformed
      else if c = '\\' then
        match rest with
        | [] => .error .unfinished
        | e :: rest =>
          match simpleEscape? e with
          | none => .error .malformed
          | some c => (stringBody none rest).map fun (text, rest) => (c :: text, rest)
      else (stringBody none rest).map fun (text, rest) => (c :: text, rest)

/-- Passes over the rest of a string whose text is not wanted. Halves of surrogate pairs
may stand alone in it. -/
def skipString : List Char → Except Fault (List Char)
  | [] => .error .unfinished
  | '\\' :: 'u' :: a :: b :: c :: d :: rest =>
    if (codeUnit? a b c d).isSome then skipString rest else .error .malformed
  | '\\' :: 'u' :: rest => .error (if Text.encodedLength rest < 4 then .unfinished else .malformed)
  | '\\' :: [] => .error .unfinished
  | '\\' :: e :: rest => if (simpleEscape? e).isSome then skipString rest else .error .malformed
  | c :: rest =>
    if c = '"' then .ok rest
    else if c.toNat < 0x20 then .error .malformed
    else skipString rest

/-- Reads the letters of a word, whose first letter has been read. -/
def wordRest : List Char → List Char → Except Fault (List Char)
  | [], rest => .ok rest
  | _ :: _, [] => .error .unfinished
  | c :: word, d :: rest => if c = d then wordRest word rest else .error .malformed

/-- The digits at the front of a text, and the rest. -/
def spanDigits (text : List Char) : List Char × List Char :=
  (text.takeWhile Unicode.isAsciiDigit, text.dropWhile Unicode.isAsciiDigit)

/-- The number that decimal digits write. -/
def decimal (digits : List Char) : Nat :=
  digits.foldl (fun n c => n * 10 + (c.toNat - '0'.toNat)) 0

/-- The digits of the whole part: a zero alone, or digits that begin with another one. -/
def wholePart : List Char → Except Fault (List Char × List Char)
  | [] => .error .unfinished
  | c :: rest =>
    if c = '0' then
      match rest with
      | d :: _ => if Unicode.isAsciiDigit d then .error .malformed else .ok (['0'], rest)
      | [] => .ok (['0'], rest)
    else if Unicode.isAsciiDigit c then .ok (spanDigits (c :: rest))
    else .error .malformed

/-- At least one digit. -/
def someDigits (text : List Char) : Except Fault (List Char × List Char) :=
  match spanDigits text, text with
  | ([], _), [] => .error .unfinished
  | ([], _), _ :: _ => .error .malformed
  | found, _ => .ok found

/-- The digits after the point, if there is one. -/
def fractionPart : List Char → Except Fault (Option (List Char) × List Char)
  | '.' :: rest => (someDigits rest).map fun (digits, rest) => (some digits, rest)
  | rest => .ok (none, rest)

/-- The exponent, if there is one. -/
def exponentPart : List Char → Except Fault (Option Int × List Char)
  | c :: rest =>
    if c = 'e' || c = 'E' then
      let value (digits : List Char) : Int := decimal digits
      match rest with
      | '-' :: rest => (someDigits rest).map fun (digits, rest) => (some (-value digits), rest)
      | '+' :: rest => (someDigits rest).map fun (digits, rest) => (some (value digits), rest)
      | rest => (someDigits rest).map fun (digits, rest) => (some (value digits), rest)
    else .ok (none, c :: rest)
  | [] => .ok (none, [])

/-- Whether `digits * 10 ^ exponent` lies beyond the largest double-precision number. -/
def exceedsDouble (digits : Nat) (exponent : Int) : Bool :=
  if digits = 0 then false
  else
    let magnitude : Int := (Nat.toDigits 10 digits).length + exponent
    if magnitude > 310 then true
    else if magnitude < 308 then false
    else
      let bound := Nat.pow 2 1024 - Nat.pow 2 970
      if 0 ≤ exponent then digits * Nat.pow 10 exponent.toNat ≥ bound
      else digits ≥ bound * Nat.pow 10 (-exponent).toNat

/-- Reads a number without its sign. A whole number that does not fit its 64-bit type is
kept as one of the others, as is a negative zero. -/
def unsignedNumber (negative : Bool) (text : List Char) : Except Fault (Number × List Char) := do
  let (whole, rest) ← wholePart text
  let (fraction, rest) ← fractionPart rest
  let (exponent, rest) ← exponentPart rest
  match fraction, exponent with
  | none, none =>
    let value := decimal whole
    if negative then
      if value ≠ 0 ∧ value ≤ Nat.pow 2 63 then return (.whole (-(value : Int)), rest)
    else if value < Nat.pow 2 64 then return (.whole value, rest)
    if exceedsDouble value 0 then throw .malformed
    return (.other, rest)
  | fraction, exponent =>
    let digits := fraction.getD []
    if exceedsDouble (decimal (whole ++ digits)) (exponent.getD 0 - digits.length) then
      throw .malformed
    return (.other, rest)

/-- Passes over a number whose value is not wanted. A number that breaks off is a
malformed one here. -/
def skipNumber (text : List Char) : Except Fault (List Char) :=
  let text := match text with
    | '-' :: rest => rest
    | text => text
  let read : Except Fault (List Char) := do
    let (_, rest) ← wholePart text
    let (_, rest) ← fractionPart rest
    let (_, rest) ← exponentPart rest
    return rest
  read.mapError fun _ => .malformed

end ScopeTokenizer.Json
