/-!
# Lines

A line of text that can be addressed by characters and by bytes. All positions in the
library count characters; bytes matter only where offsets are exchanged with a program
that counts them.
-/

namespace ScopeTokenizer

/-- A line. The offsets of its characters are tabulated only when some character takes
more than one byte: otherwise both ways of counting agree. -/
structure Line where
  chars : Array Char
  /-- The byte offset of every character, then the length in bytes; or empty. -/
  starts : Array Nat
  deriving DecidableEq

namespace Line

/-- The byte offsets of the characters of a text that begins at an offset, and the offset
of its end. -/
def startsFrom (offset : Nat) : List Char → List Nat
  | [] => [offset]
  | c :: rest => offset :: startsFrom (offset + c.utf8Size) rest

/-- Whether every character takes a single byte. -/
def isAscii (text : List Char) : Bool := text.all fun c => c.toNat < 128

/-- The line of a text. -/
def ofChars (text : List Char) : Line where
  chars := text.toArray
  starts := if isAscii text then #[] else (startsFrom 0 text).toArray

/-- The line of a text. -/
def ofString (text : String) : Line := ofChars text.toList

/-- The number of characters. -/
def length (line : Line) : Nat := line.chars.size

/-- The text of a line. -/
def text (line : Line) : String := String.ofList line.chars.toList

/-- The byte offset of a character. Positions beyond the end are taken to be the end. -/
def byteOffset (line : Line) (position : Nat) : Nat :=
  if line.starts.isEmpty then min position line.length
  else line.starts.getD (min position line.length) 0

/-- The first character that begins at a byte offset or after it. On a line without a
table every offset, even one beyond the end, is its own position. -/
def charOffset (line : Line) (offset : Nat) : Nat :=
  if line.starts.isEmpty then offset else line.starts.toList.countP (· < offset)

/-- The characters from one position up to another one. Positions beyond the end are
taken to be the end. -/
def slice (line : Line) (first last : Nat) : List Char := (line.chars.extract first last).toList

/-- The first characters of a line. -/
def truncate (line : Line) (length : Nat) : Line := ofChars (line.slice 0 length)

@[simp] theorem length_ofChars (text : List Char) : (ofChars text).length = text.length := by
  simp [ofChars, length]

@[simp] theorem slice_ofChars (text : List Char) (first last : Nat) :
    (ofChars text).slice first last = (text.drop first).take (last - first) := by
  simp [ofChars, slice, List.extract_eq_take_drop]

end Line

end ScopeTokenizer
