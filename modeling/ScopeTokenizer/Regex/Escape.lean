import ScopeTokenizer.Regex.CharSet

/-!
# Escapes for characters

The ways to write a character, or a byte of one, by its number or by a letter. They are
the same inside and outside of bracket expressions. Bytes from 128 on have to be put
together to the encoding of a character.
-/

namespace ScopeTokenizer.Regex

open Unicode

/-- What an escape stands for. -/
inductive Code where
  /-- A character written as itself or by a letter. -/
  | char (c : Char)
  /-- A code point. -/
  | point (number : Nat)
  /-- One byte. -/
  | byte (number : Nat)

namespace Code

/-- The value of a digit. -/
def digitValue (c : Char) : Nat :=
  if c ≤ '9' then c.toNat - '0'.toNat
  else if c ≤ 'F' then c.toNat - 'A'.toNat + 10
  else c.toNat - 'a'.toNat + 10

/-- The number that digits write in some base. -/
def number (base : Nat) (digits : List Char) : Nat :=
  digits.foldl (fun n c => n * base + digitValue c) 0

/-- The octal digits. -/
def isOctalDigit (c : Char) : Bool := '0' ≤ c && c ≤ '7'

/-- The characters that single letters stand for. -/
def letters : List (Char × Char) := [
  ('a', '\x07'), ('e', '\x1b'), ('f', '\x0c'), ('n', '\n'), ('r', '\r'), ('t', '\t'),
  ('v', '\x0b')]

/-- A number in braces, of at most so many digits. `none` if the braces hold no number. -/
def braced? (base limit : Nat) (isDigit : Char → Bool) (text : List Char) :
    Option (Nat × List Char) :=
  match text with
  | '\x7b' :: rest =>
    let digits := rest.takeWhile isDigit
    match rest.dropWhile isDigit with
    | '\x7d' :: after =>
      if digits = [] ∨ limit < digits.length then none else some (number base digits, after)
    | _ => none
  | _ => none

/-- The digits at the front of a text, but no more than a limit. -/
def digitsUpTo (limit : Nat) (isDigit : Char → Bool) (text : List Char) : List Char :=
  (text.take limit).takeWhile isDigit

/-- The byte written by octal digits, at most so many. -/
def octal (limit : Nat) (text : List Char) : Option (Code × List Char) :=
  let digits := digitsUpTo limit isOctalDigit text
  let value := number 8 digits
  if 255 < value then none else some (.byte value, text.drop digits.length)

/-- What the escape of a letter stands for, and the text after it. -/
def read? (c : Char) (text : List Char) : Option (Code × List Char) :=
  match c with
  | 'x' =>
    match text with
    | '\x7b' :: rest =>
      if 8 < (rest.takeWhile isAsciiHexDigit).length then none
      else match braced? 16 8 isAsciiHexDigit text with
        | some (value, after) => some (.point value, after)
        | none => some (.char 'x', text)
    | [] => some (.char 'x', [])
    | text =>
      let digits := digitsUpTo 2 isAsciiHexDigit text
      some (.byte (number 16 digits), text.drop digits.length)
  | 'u' =>
    let digits := digitsUpTo 4 isAsciiHexDigit text
    if text = [] then some (.char 'u', [])
    else if digits.length = 4 then some (.point (number 16 digits), text.drop 4)
    else none
  | 'o' =>
    match braced? 8 11 isOctalDigit text with
    | some (value, after) => some (.point value, after)
    | none => some (.char 'o', text)
  | 'c' =>
    match text with
    | '?' :: rest => some (.point 0x7f, rest)
    | '\\' :: _ | [] => none
    | d :: rest => some (.point (d.toNat &&& 0x9f), rest)
  | 'C' =>
    match text with
    | '-' :: '?' :: rest => some (.point 0x7f, rest)
    | '-' :: d :: rest => if d = '\\' then none else some (.point (d.toNat &&& 0x9f), rest)
    | _ => none
  | 'M' =>
    match text with
    | '-' :: d :: rest => if d = '\\' then none else some (.point ((d.toNat &&& 0xff) ||| 0x80), rest)
    | _ => none
  | c => some (.char ((letters.lookup c).getD c), text)

/-- All other letters stand for a character, and take nothing of the text. -/
theorem read?_of_ne {c : Char} (x : c ≠ 'x') (u : c ≠ 'u') (o : c ≠ 'o') (control : c ≠ 'c')
    (hyphenated : c ≠ 'C') (eighth : c ≠ 'M') (text : List Char) :
    read? c text = some (.char ((letters.lookup c).getD c), text) := by
  simp [read?]

/-- How many bytes a character takes whose encoding begins with a byte. -/
def encodedLength (byte : Nat) : Nat :=
  if byte < 0xc2 then 1 else if byte < 0xe0 then 2 else if byte < 0xf0 then 3
  else if byte < 0xf5 then 4 else 1

/-- A byte at the front of a text, written as an escape. -/
def byteEscape? : List Char → Option (Nat × List Char)
  | '\\' :: 'x' :: rest =>
    match read? 'x' rest with
    | some (.byte value, after) => some (value, after)
    | _ => none
  | '\\' :: c :: rest =>
    if isOctalDigit c then
      match octal 3 (c :: rest) with
      | some (.byte value, after) => some (value, after)
      | _ => none
    else none
  | _ => none

/-- So many bytes at the front of a text, written as escapes. -/
def byteEscapes? : Nat → List Char → Option (List Nat × List Char)
  | 0, text => some ([], text)
  | count + 1, text => do
    let (first, rest) ← byteEscape? text
    let (others, rest) ← byteEscapes? count rest
    return (first :: others, rest)

/-- The code point that a code stands for, together with the text after it, from which the
bytes of a character that were not read yet are taken. -/
def complete? (code : Code) (text : List Char) : Option (Nat × List Char) :=
  match code with
  | char c => some (c.toNat, text)
  | point value => if 0x10ffff < value then none else some (value, text)
  | byte value =>
    if value < 128 then some (value, text)
    else do
      let (bytes, rest) ← byteEscapes? (encodedLength value - 1) text
      let encoded := ByteArray.mk ((value :: bytes).map UInt8.ofNat).toArray
      match (← String.fromUTF8? encoded).toList with
      | [c] => return (c.toNat, rest)
      | _ => none

end Code

end ScopeTokenizer.Regex
