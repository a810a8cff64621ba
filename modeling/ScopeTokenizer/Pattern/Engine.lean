import ScopeTokenizer.Pattern.Source

/-!
# Matching engines

What the library needs of a dialect of regular expressions: it compiles patterns, and it
says what a compiled pattern captures when it is matched at one position. Everything else,
the search for a match above all, is built on these two.
-/

namespace ScopeTokenizer.Pattern

/-- A dialect of regular expressions. -/
structure Engine where
  /-- Compiled patterns. -/
  Compiled : Type
  /-- Compiles a pattern, if it can be. Groups without a name capture always, or only where
  no group has a name. -/
  compile? (captureAll : Bool) (pattern : String) : Option Compiled
  /-- What a pattern captures when it matches at a position of a text, where the search
  began at `searchStart`. The whole match comes first. -/
  matchAt (pattern : Compiled) (text : Array Char) (searchStart position : Nat) : Option Captures

end ScopeTokenizer.Pattern
