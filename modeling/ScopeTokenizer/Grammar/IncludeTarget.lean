import ScopeTokenizer.Text.Split

/-!
# Include targets

An include names the rules that stand in its place: those of the grammar it is written in,
those of the grammar that everything started from, an entry of a repository, another
grammar, or an entry of another grammar's repository.
-/

namespace ScopeTokenizer.Grammar

/-- What an include refers to. -/
inductive IncludeTarget where
  /-- The grammar that the include is written in. -/
  | self
  /-- The grammar that is being used to read a text. -/
  | base
  /-- An entry of the repository that is in force. -/
  | entry (name : String)
  /-- A grammar. -/
  | grammar (scope : String)
  /-- An entry of the repository of a grammar. -/
  | entryOf (scope name : String)
  deriving DecidableEq, Repr

namespace IncludeTarget

/-- Reads the text of an include. The first number sign separates a grammar from an entry. -/
def ofText (text : String) : IncludeTarget :=
  if text = "$self" then self
  else if text = "$base" then base
  else match Text.splitFirst? '#' text.toList with
    | some ([], name) => entry (String.ofList name)
    | some (scope, name) => entryOf (String.ofList scope) (String.ofList name)
    | none => grammar text

end IncludeTarget

end ScopeTokenizer.Grammar
