import ScopeTokenizer.Text.Encoded
import ScopeTokenizer.Unicode.Classes

/-!
# Tokens of selectors

A selector is written with scope names, five operators, and two marks that give its
parts a priority. Blanks separate scope names and mean nothing else.
-/

namespace ScopeTokenizer.Selector

/-- A token of a selector. -/
inductive Token where
  | left
  | right
  | comma
  | bar
  | minus
  | «open»
  | close
  | scope (name : List Char)
  deriving DecidableEq, Repr

namespace Token

/-- How a token is written. -/
def text : Token → List Char
  | left => ['L', ':']
  | right => ['R', ':']
  | comma => [',']
  | bar => ['|']
  | minus => ['-']
  | «open» => ['(']
  | close => [')']
  | scope name => name

/-- The token that a single character is. -/
def ofChar? : Char → Option Token
  | ',' => some comma
  | '|' => some bar
  | '-' => some minus
  | '(' => some «open»
  | ')' => some close
  | _ => none

/-- Characters that a scope name may begin with. -/
def beginsScope (c : Char) : Bool := Unicode.isWord c || c == '.' || c == ':'

/-- Characters that may follow in a scope name. -/
def continuesScope (c : Char) : Bool := beginsScope c || c == '*' || c == '-'

/-- The token at the front of a text, and the text after it. The marks of priority win
over scope names, and a scope name is as long as it can be. -/
def read? : List Char → Option (Token × List Char)
  | [] => none
  | 'L' :: ':' :: rest => some (left, rest)
  | 'R' :: ':' :: rest => some (right, rest)
  | c :: rest =>
    if beginsScope c then
      some (scope (c :: rest.takeWhile continuesScope), rest.dropWhile continuesScope)
    else (ofChar? c).map (·, rest)

theorem length_read? {text rest : List Char} {token : Token}
    (h : read? text = some (token, rest)) : rest.length < text.length := by
  fun_cases read? text with
  | case1 => simp [read?] at h
  | case2 rest' =>
    rw [read?, Option.some.injEq, Prod.mk.injEq] at h
    rw [← h.2, List.length_cons, List.length_cons]
    omega
  | case3 rest' =>
    rw [read?, Option.some.injEq, Prod.mk.injEq] at h
    rw [← h.2, List.length_cons, List.length_cons]
    omega
  | case4 c rest' _ _ begins =>
    rw [read?, if_pos begins] at h
    · simp only [Option.some.injEq, Prod.mk.injEq] at h
      have := (List.dropWhile_suffix (l := rest') continuesScope).length_le
      rw [← h.2, List.length_cons]
      omega
    all_goals assumption
  | case5 c rest' _ _ begins =>
    rw [read?, if_neg begins] at h
    · simp only [Option.map_eq_some_iff, Prod.mk.injEq] at h
      obtain ⟨_, _, _, equal⟩ := h
      simp [← equal]
    all_goals assumption

/-- The tokens of a text, or the position, in bytes, of the first character that belongs
to none and is not blank. `position` is where the text begins. -/
def readAll (position : Nat) (text : List Char) : Except Nat (List Token) :=
  match text with
  | [] => .ok []
  | c :: rest =>
    match h : read? (c :: rest) with
    | some (token, after) =>
      have := length_read? h
      (readAll (position + Text.encodedLength token.text) after).map (token :: ·)
    | none =>
      if Unicode.isBlank c then readAll (position + c.utf8Size) rest else .error position
termination_by text.length
decreasing_by all_goals simp_all

end Token

end ScopeTokenizer.Selector
