import ScopeTokenizer.Scope.Path

/-!
# Tokens

Reading a line cuts it into tokens, each in one path of scopes. There are two kinds of them:
with the names of the scopes, and with their metadata alone, in which neighbours with the same
metadata are one token. A line is read for tokens of one kind, and only those are kept.

A line is read with a line feed at its end, which no token shows.
-/

namespace ScopeTokenizer

open Style

/-- A token with the names of its scopes, the grammar's own first. -/
structure Token where
  start : Nat
  stop : Nat
  scopes : List String
  deriving DecidableEq, Repr

/-- A token with its metadata. It ends where the next one starts. -/
structure StyledToken where
  start : Nat
  metadata : Metadata
  deriving DecidableEq

/-- The tokens of a line up to some position, in order. -/
structure LineTokens where
  /-- Tokens are wanted with their metadata, not with the names of their scopes. -/
  styled : Bool
  named : Array Token := #[]
  withStyle : Array StyledToken := #[]
  /-- Where the last token ends. -/
  stop : Nat := 0
  deriving DecidableEq

namespace LineTokens

/-- Adds a token with metadata, unless the last one has the same. -/
def addStyled (tokens : Array StyledToken) (start : Nat) (metadata : Metadata) :
    Array StyledToken :=
  if tokens.back?.any fun last => last.metadata = metadata then tokens
  else tokens.push ⟨start, metadata⟩

/-- Adds the token up to a position, unless that was reached before. -/
def add (tokens : LineTokens) (scopes : ScopePath) (stop : Nat) : LineTokens :=
  if stop ≤ tokens.stop then tokens
  else if tokens.styled then
    { tokens with withStyle := addStyled tokens.withStyle tokens.stop scopes.metadata, stop }
  else { tokens with named := tokens.named.push ⟨tokens.stop, stop, scopes.names⟩, stop }

/-- The list without its last element, if that begins at the line feed. -/
def dropLineFeed {α : Type} (start : α → Nat) (length : Nat) (list : List α) : List α :=
  match list.getLast? with
  | some last => if start last + 1 = length then list.dropLast else list
  | none => list

/-- The tokens, of which the last one ends before the line feed. -/
def shorten (length : Nat) (tokens : List Token) : List Token :=
  match tokens.getLast? with
  | some last =>
    if last.stop = length then tokens.dropLast ++ [{ last with stop := length - 1 }] else tokens
  | none => tokens

/-- The tokens of a line of some length, its line feed included. A line without any text has
a single token, in the scopes given. -/
def tokens (tokens : LineTokens) (scopes : ScopePath) (length : Nat) : List Token :=
  let shown := dropLineFeed Token.start length tokens.named.toList
  shorten length (if shown.isEmpty then [⟨0, length, scopes.names⟩] else shown)

/-- The tokens of a line of some length with their metadata. A line without any text has a
single token, in the scopes given. -/
def styledTokens (tokens : LineTokens) (scopes : ScopePath) (length : Nat) :
    List StyledToken :=
  let shown := dropLineFeed StyledToken.start length tokens.withStyle.toList
  if shown.isEmpty then [⟨0, scopes.metadata⟩] else shown

@[simp] theorem stop_add (tokens : LineTokens) (scopes : ScopePath) (stop : Nat) :
    (tokens.add scopes stop).stop = max tokens.stop stop := by
  unfold add
  split
  · next h => exact (Nat.max_eq_left h).symm
  · next h =>
    split <;> exact (Nat.max_eq_right (Nat.le_of_not_le h)).symm

@[simp] theorem styled_add (tokens : LineTokens) (scopes : ScopePath) (stop : Nat) :
    (tokens.add scopes stop).styled = tokens.styled := by
  unfold add
  split
  · rfl
  · split <;> rfl

end LineTokens

end ScopeTokenizer
