import ScopeTokenizer.Unicode.CaseMapping

/-!
# Case folding

Two texts that differ only in case have the same folding. The folding of a character may
be longer than one character, as that of `ß` is `ss`.
-/

namespace ScopeTokenizer.Unicode

/-- The folding of a character. -/
def fold (c : Char) : List Char := CaseMapping.fold.apply c

/-- The folding of a text, character by character. -/
def foldAll (text : List Char) : List Char := text.flatMap fold

/-- The characters whose folding is the given one. -/
def unfoldings (image : List Char) : List Char :=
  let others := CaseMapping.fold.entries.toList.filterMap fun (code, other) =>
    if other = image then some (Char.ofNat code) else none
  match image with
  | [c] => if fold c = [c] then c :: others else others
  | _ => others

/-- The characters that differ from a character at most in case. -/
def caseVariants (c : Char) : List Char := unfoldings (fold c)

@[simp] theorem foldAll_nil : foldAll [] = [] := rfl

@[simp] theorem foldAll_append (first second : List Char) :
    foldAll (first ++ second) = foldAll first ++ foldAll second := by
  simp [foldAll]

end ScopeTokenizer.Unicode
