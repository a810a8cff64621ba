import ScopeTokenizer.Unicode.CaseMapping
import ScopeTokenizer.Unicode.Derived

/-!
# Case of texts

Full upper- and lower-casing. Both may change the number of characters; lower-casing
also looks at the neighbours of a capital sigma, which has a form of its own at the
end of a word.
-/

namespace ScopeTokenizer.Text

open Unicode

/-- Upper case, character by character. -/
def upperCase (text : List Char) : List Char := text.flatMap CaseMapping.upper.apply

/-- Whether a text begins, after characters that carry no case context, with a cased
character. -/
def startsCased (text : List Char) : Bool :=
  match text.dropWhile fun c => Derived.caseIgnorable.contains c.toNat with
  | [] => false
  | c :: _ => Derived.cased.contains c.toNat

/-- Lower-cases `text`, which follows the reversed text `before`. -/
def lowerCaseAfter (before : List Char) : List Char → List Char
  | [] => []
  | c :: rest =>
    (if c = 'Σ' then
      if startsCased before && !startsCased rest then ['ς'] else ['σ']
    else CaseMapping.lower.apply c) ++ lowerCaseAfter (c :: before) rest

/-- Lower case, with the final form of sigma where a word ends in one. -/
def lowerCase (text : List Char) : List Char := lowerCaseAfter [] text

@[simp] theorem upperCase_append (first second : List Char) :
    upperCase (first ++ second) = upperCase first ++ upperCase second := by
  simp [upperCase]

end ScopeTokenizer.Text
