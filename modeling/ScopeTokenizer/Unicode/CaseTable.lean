import ScopeTokenizer.Unicode.RangeTable

/-!
# Tables of case mappings

A case mapping sends a character to a short sequence of characters. Its table lists
the characters that change, in its textual form as `df:73+73`: a code point, a colon
and the code points of the image, all hexadecimal.
-/

namespace ScopeTokenizer.Unicode

/-- A mapping from characters to sequences of characters that moves only the listed
ones. The entries are in increasing order of their code points. -/
structure CaseTable where
  entries : Array (Nat × List Char)

namespace CaseTable

/-- One entry of a table. -/
def entryOfText (text : List Char) : Nat × List Char :=
  match Text.splitFirst? ':' text with
  | some (code, image) =>
    (hexNumber code, (Text.pieces (· == '+') image).map fun c => Char.ofNat (hexNumber c))
  | none => (hexNumber text, [])

/-- Reads entries that are separated by blanks. -/
def ofText (text : String) : CaseTable :=
  ⟨((Text.words (fun c => c == ' ' || c == '\n') text.toList).map entryOfText).toArray⟩

/-- The table of mappings that are given by numbers alone. -/
def ofCodes (codes : List (Nat × List Nat)) : CaseTable :=
  ⟨(codes.map fun (code, image) => (code, image.map Char.ofNat)).toArray⟩

/-- Looks for a code point among the entries from `low` on, below `high`, by halving
the part of the table that may still hold it. -/
def find? (table : CaseTable) (code : Nat) (low high : Nat) : Nat → Option (List Char)
  | 0 => none
  | steps + 1 =>
    if low < high then
      let middle := (low + high) / 2
      match table.entries[middle]? with
      | none => none
      | some (other, image) =>
        if other = code then some image
        else if other < code then find? table code (middle + 1) high steps
        else find? table code low middle steps
    else none

/-- The image of a character; characters without an entry map to themselves. -/
def apply (table : CaseTable) (c : Char) : List Char :=
  (table.find? c.toNat 0 table.entries.size table.entries.size).getD [c]

end CaseTable

end ScopeTokenizer.Unicode
