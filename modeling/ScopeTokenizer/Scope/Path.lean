import ScopeTokenizer.Scope.Name
import ScopeTokenizer.Style.Metadata

/-!
# Scope paths

The scopes that enclose a piece of text, from the scope of the grammar to the innermost
one, each with the metadata of text that lies directly in it. A path always holds the
scope of a grammar, so it is never empty.
-/

namespace ScopeTokenizer

open Style

/-- A path of scopes. -/
inductive ScopePath where
  /-- The scope of a grammar. -/
  | root (name : String) (metadata : Metadata)
  /-- A scope inside the innermost one of another path. -/
  | push (outer : ScopePath) (name : String) (metadata : Metadata)
  deriving DecidableEq

namespace ScopePath

/-- The innermost scope. -/
def name : ScopePath → String
  | root name _ | push _ name _ => name

/-- The metadata of text in the innermost scope. -/
def metadata : ScopePath → Metadata
  | root _ metadata | push _ _ metadata => metadata

/-- The path around the innermost scope. -/
def outer? : ScopePath → Option ScopePath
  | root _ _ => none
  | push outer _ _ => some outer

/-- How many scopes there are. -/
def length : ScopePath → Nat
  | root _ _ => 1
  | push outer _ _ => outer.length + 1

/-- The scopes inside a path that is followed by the scopes `inner`. -/
def namesBefore (inner : List String) : ScopePath → List String
  | root name _ => name :: inner
  | push outer name _ => outer.namesBefore (name :: inner)

/-- The names of the scopes, the grammar's own first. -/
def names (path : ScopePath) : List String := path.namesBefore []

/-- Whether scopes are found in a path in the given order, the closest first, each
strictly outside the one before. -/
def encloses : ScopePath → List String → Bool
  | _, [] => true
  | root name _, scope :: scopes => Scope.matchesSelector name scope && scopes.isEmpty
  | push outer name _, scope :: scopes =>
    if Scope.matchesSelector name scope then outer.encloses scopes
    else outer.encloses (scope :: scopes)

theorem namesBefore_eq (path : ScopePath) (inner : List String) :
    path.namesBefore inner = path.names ++ inner := by
  induction path generalizing inner with
  | root name metadata => rfl
  | push outer name metadata ih =>
    simp only [names, namesBefore]
    rw [ih (name :: inner), ih [name]]
    simp

@[simp] theorem names_root (name : String) (metadata : Metadata) :
    (root name metadata).names = [name] := rfl

@[simp] theorem names_push (outer : ScopePath) (name : String) (metadata : Metadata) :
    (push outer name metadata).names = outer.names ++ [name] :=
  namesBefore_eq outer [name]

@[simp] theorem length_names (path : ScopePath) : path.names.length = path.length := by
  induction path with
  | root name metadata => rfl
  | push outer name metadata ih => simp [length, ih]

@[simp] theorem encloses_nil (path : ScopePath) : path.encloses [] = true := by
  cases path <;> rfl

end ScopePath

end ScopeTokenizer
