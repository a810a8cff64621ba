import ScopeTokenizer.Selector.Basic
import ScopeTokenizer.Selector.Token

/-!
# Reading selectors

A selector is a list of parts between commas. A part is a choice between conjunctions,
a conjunction is one operand or several, and an operand is a path, a negated operand, or
a choice in parentheses, where commas separate as well as bars do. Each function reads
from the front of a list of tokens and gives back the tokens it left, which are never
more than it was given.
-/

namespace ScopeTokenizer.Selector

/-- Why a text is no selector. -/
inductive Fault where
  /-- A character that is neither blank nor part of a token, at a position in bytes. -/
  | unexpectedCharacter (position : Nat)
  /-- An opening parenthesis without its closing one. -/
  | unclosedParenthesis
  /-- An operator with nothing to apply to. -/
  | missingOperand
  /-- A token at a place where it cannot stand. -/
  | unexpectedToken (token : Token)
  deriving DecidableEq, Repr

/-- What is said about a selector that cannot be read. -/
def Fault.message (selector : String) : Fault → String
  | unexpectedCharacter position => s!"unexpected character at {position} in '{selector}'"
  | unclosedParenthesis => s!"unclosed parenthesis in '{selector}'"
  | missingOperand => s!"operator without operand in '{selector}'"
  | unexpectedToken token =>
    let text := String.ofList token.text
    s!"unexpected '{text}' in '{selector}'"

/-- A scope name up to its first `.*`, from which on anything may follow. -/
def withoutWildcard : List Char → List Char
  | [] => []
  | '.' :: '*' :: _ => []
  | c :: rest => c :: withoutWildcard rest

/-- The scopes at the front of a list of tokens. -/
def leadingScopes : List Token → List String
  | .scope name :: tokens => String.ofList (withoutWildcard name) :: leadingScopes tokens
  | _ => []

/-- The tokens after the scopes at the front. -/
def afterScopes : List Token → List Token
  | .scope _ :: tokens => afterScopes tokens
  | tokens => tokens

theorem length_afterScopes (tokens : List Token) :
    (afterScopes tokens).length ≤ tokens.length := by
  fun_induction afterScopes tokens with
  | case1 name tokens ih => exact Nat.le_succ_of_le ih
  | case2 => exact Nat.le_refl _

/-- The test for a conjunction of operands. -/
def conjunction : List Matcher → Option Matcher
  | [] => none
  | [matcher] => some matcher
  | matchers => some (.all matchers)

/-- The test for a choice. -/
def choice : List Matcher → Matcher
  | [matcher] => matcher
  | matchers => .any matchers

/-- The tokens that remain after reading from the front of others. -/
abbrev Rest (tokens : List Token) := { rest : List Token // rest.length ≤ tokens.length }

mutual

/-- Reads one operand, if one is there. -/
def operand (tokens : List Token) :
    Except Fault (Option (Matcher × { rest : List Token // rest.length < tokens.length })) :=
  match tokens with
  | .minus :: rest =>
    match operand rest with
    | .error fault => .error fault
    | .ok none => .error .missingOperand
    | .ok (some (matcher, ⟨rest, h⟩)) =>
      .ok (some (.not matcher, ⟨rest, by simp only [List.length_cons]; omega⟩))
  | .open :: rest =>
    match choices [.bar, .comma] rest with
    | .error fault => .error fault
    | .ok (matchers, ⟨.close :: rest, h⟩) =>
      .ok (some (choice matchers, ⟨rest, by simp only [List.length_cons] at *; omega⟩))
    | .ok _ => .error .unclosedParenthesis
  | .scope name :: rest =>
    .ok (some (.path (leadingScopes (.scope name :: rest)), ⟨afterScopes rest, by
      have := length_afterScopes rest
      simp only [List.length_cons]
      omega⟩))
  | _ => .ok none
termination_by 3 * tokens.length

/-- Reads as many operands as there are. -/
def operands (tokens : List Token) : Except Fault (List Matcher × Rest tokens) :=
  match operand tokens with
  | .error fault => .error fault
  | .ok none => .ok ([], ⟨tokens, Nat.le_refl _⟩)
  | .ok (some (matcher, ⟨rest, h⟩)) =>
    match operands rest with
    | .error fault => .error fault
    | .ok (matchers, ⟨rest, h'⟩) => .ok (matcher :: matchers, ⟨rest, by omega⟩)
termination_by 3 * tokens.length + 1

/-- Reads conjunctions between separators, at least one. -/
def choices (separators : List Token) (tokens : List Token) :
    Except Fault (List Matcher × Rest tokens) :=
  match operands tokens with
  | .error fault => .error fault
  | .ok (matchers, ⟨rest, h⟩) =>
    match conjunction matchers with
    | none =>
      match rest with
      | token :: _ =>
        if separators.contains token || token == .close then .error .missingOperand
        else .error (.unexpectedToken token)
      | [] => .error .missingOperand
    | some matcher =>
      match rest, h with
      | [], h => .ok ([matcher], ⟨[], h⟩)
      | token :: after, h =>
        if separators.contains token then
          match choices separators after with
          | .error fault => .error fault
          | .ok (others, ⟨last, h'⟩) =>
            .ok (matcher :: others, ⟨last, by simp only [List.length_cons] at h; omega⟩)
        else .ok ([matcher], ⟨token :: after, h⟩)
termination_by 3 * tokens.length + 2
decreasing_by
  · omega
  · simp only [List.length_cons] at h
    omega

end

/-- The priority that a part begins with, and the tokens after it. -/
def splitPriority : List Token → Priority × List Token
  | .left :: tokens => (.left, tokens)
  | .right :: tokens => (.right, tokens)
  | tokens => (.neutral, tokens)

theorem length_splitPriority (tokens : List Token) :
    (splitPriority tokens).2.length ≤ tokens.length := by
  fun_cases splitPriority tokens <;> simp_all

/-- Reads the parts of a selector. The last part may be followed by a comma. -/
def parts (tokens : List Token) : Except Fault (List Part) :=
  match tokens with
  | [] => .ok []
  | first :: others =>
    have := length_splitPriority (first :: others)
    match choices [.bar] (splitPriority (first :: others)).2 with
    | .error fault => .error fault
    | .ok (matchers, ⟨rest, h⟩) =>
      let part : Part := ⟨choice matchers, (splitPriority (first :: others)).1⟩
      match rest, h with
      | [], _ => .ok [part]
      | .comma :: after, _ => (parts after).map (part :: ·)
      | token :: _, _ => .error (.unexpectedToken token)
termination_by tokens.length
decreasing_by simp only [List.length_cons] at *; omega

/-- Reads a selector, such as `L:source.js -comment, text.html string`. The empty selector
has no parts. -/
def ofText (text : String) : Except Fault (List Part) :=
  match Token.readAll 0 text.toList with
  | .error position => .error (.unexpectedCharacter position)
  | .ok tokens => parts tokens

end ScopeTokenizer.Selector
