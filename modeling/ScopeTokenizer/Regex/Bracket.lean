import ScopeTokenizer.Regex.Escape
import ScopeTokenizer.Regex.Property

/-!
# Bracket expressions

The sets of characters that are written in brackets: characters, ranges, classes, nested
brackets, and intersections. A hyphen stands for itself wherever it cannot make a range.
-/

namespace ScopeTokenizer.Regex

open Unicode

/-- The options that apply to a part of a pattern. -/
structure Flags where
  /-- Case makes no difference. -/
  anyCase : Bool := false
  /-- The dot matches a line feed too. -/
  dotAll : Bool := false
  /-- Blanks and comments in the pattern mean nothing. -/
  extended : Bool := false
  /-- Word characters are ASCII. -/
  asciiWord : Bool := false
  /-- Digits are ASCII. -/
  asciiDigit : Bool := false
  /-- White space is ASCII. -/
  asciiSpace : Bool := false
  /-- All named classes are ASCII. -/
  asciiNames : Bool := false
  deriving DecidableEq, Repr

namespace Flags

/-- A set, or the ASCII part of it. -/
def restrict (ascii : Bool) (set : CharSet) : CharSet := if ascii then .inter .ascii set else set

/-- Word characters. -/
def word (flags : Flags) : CharSet := restrict (flags.asciiWord || flags.asciiNames) .word

/-- Digits. -/
def digit (flags : Flags) : CharSet := restrict (flags.asciiDigit || flags.asciiNames) .digit

/-- White space. -/
def blank (flags : Flags) : CharSet := restrict (flags.asciiSpace || flags.asciiNames) .blank

/-- The class that a letter after a backslash stands for. Upper-case letters stand for the
complements. -/
def class? (flags : Flags) : Char → Option CharSet
  | 'w' => some flags.word
  | 'W' => some (.compl flags.word)
  | 'd' => some flags.digit
  | 'D' => some (.compl flags.digit)
  | 's' => some flags.blank
  | 'S' => some (.compl flags.blank)
  | 'h' => some .hexDigit
  | 'H' => some (.compl .hexDigit)
  | _ => none

end Flags

namespace Bracket

/-- The set of a property whose name is written in braces, and the text after it. Both an
upper-case letter before the brace and a circumflex behind it ask for the complement. -/
def property? (flags : Flags) (letter : Char) : List Char → Option (CharSet × List Char)
  | '\x7b' :: rest => do
    let inverted := rest.head? = some '^'
    let rest := if inverted then rest.drop 1 else rest
    match rest.dropWhile fun c => !("()\x7b\x7d|".toList.contains c) with
    | '\x7d' :: after =>
      let set ← Property.named? (rest.takeWhile (· ≠ '\x7d'))
      let set := Flags.restrict flags.asciiNames set
      return (if inverted != (letter == 'P') then .compl set else set, after)
    | _ => none
  | _ => none

/-- A member of a bracket expression. -/
inductive Token where
  | close
  | hyphen
  | and
  | nested
  | code (number : Nat)
  | kind (set : CharSet)

/-- Whether a character stands in a text, other than behind a backslash. -/
def occurs (c : Char) : List Char → Bool
  | [] => false
  | '\\' :: _ :: rest => occurs c rest
  | d :: rest => d = c || occurs c rest

/-- Whether `:]` stands in a text before any other closing bracket. -/
def closesName : List Char → Bool
  | [] => false
  | ':' :: ']' :: _ => true
  | ']' :: _ => false
  | '\\' :: _ :: rest => closesName rest
  | _ :: rest => closesName rest

/-- Names of classes are at most this long. -/
def maxNameLength : Nat := 20

/-- A class written `[:name:]`, whose text is given from the name on. There are three
outcomes: a class, no class after all, and a class of an unknown name. -/
def className (flags : Flags) (text : List Char) : Option (Option (CharSet × List Char)) :=
  let inverted := text.head? = some '^'
  let text := if inverted then text.drop 1 else text
  let name := text.takeWhile isAsciiLetter
  match Property.bracketNamed? name, text.drop name.length with
  | some set, ':' :: ']' :: after =>
    let set := Flags.restrict flags.asciiNames set
    some (some (if inverted then .compl set else set, after))
  | _, _ =>
    let skipped := (text.take (maxNameLength + 1)).takeWhile fun c => c ≠ ':' && c ≠ ']'
    match text.drop skipped.length with
    | ':' :: ']' :: _ => if maxNameLength < skipped.length then some none else none
    | _ => some none

/-- The member at the front of a text, and the text after it. -/
def token? (flags : Flags) : List Char → Option (Token × List Char)
  | [] => none
  | ']' :: rest => some (.close, rest)
  | '-' :: rest => some (.hyphen, rest)
  | '&' :: '&' :: rest => some (.and, rest)
  | '[' :: rest =>
    match rest with
    | ':' :: name =>
      if closesName name then
        match className flags name with
        | none => none
        | some (some (set, after)) => some (.kind set, after)
        | some none => some (.code '['.toNat, rest)
      else some (.nested, rest)
    | _ => some (.nested, rest)
  | '\\' :: rest =>
    match rest with
    | [] => none
    | c :: rest =>
      match flags.class? c with
      | some set => some (.kind set, rest)
      | none =>
        if (c = 'p' || c = 'P') && rest.head? = some '\x7b' then
          (property? flags c rest).map fun (set, after) => (.kind set, after)
        else
          let code :=
            if Code.isOctalDigit c then Code.octal 3 (c :: rest)
            else if c = 'b' then some (.char '\x08', rest)
            else Code.read? c rest
          code.bind fun (code, after) =>
            (code.complete? after).map fun (number, after) => (.code number, after)
  | c :: rest => some (.code c.toNat, rest)

/-- What the last member was: it decides what a hyphen after it means. -/
inductive Last where
  | nothing
  /-- A character that may begin a range, and that is no member yet. -/
  | code (number : Nat)
  | kind
  /-- A range or a nested bracket expression. -/
  | complete

/-- The members of a set together with the last one. -/
def flush (set : CharSet) : Last → CharSet
  | .code number => .union set (.single number)
  | _ => set

/-- A bracket expression after its opening bracket, and the text after it. `complement`
says whether it begins with a circumflex. -/
structure Reading where
  complement : Bool
  /-- The set before the complement is taken. -/
  base : CharSet
  rest : List Char

/-- The set that a bracket expression stands for. -/
def Reading.set (reading : Reading) : CharSet :=
  if reading.complement then .compl reading.base else reading.base

/-- Reads the members of a bracket expression up to its closing bracket, where `nested`
reads the bracket expressions in it. -/
def members (flags : Flags) (nested : List Char → Option Reading) :
    Nat → CharSet → Last → List Char → Option (CharSet × List Char)
  | 0, _, _, _ => none
  | steps + 1, set, last, text => do
    let next := members flags nested steps
    let (token, rest) ← token? flags text
    match token with
    | .close => return (flush set last, rest)
    | .code number => next (flush set last) (.code number) rest
    | .kind other => next (.union (flush set last) other) .kind rest
    | .nested =>
      let reading ← nested rest
      next (.union (flush set last) reading.set) .complete reading.rest
    | .and =>
      let (other, rest) ← next .none .nothing rest
      return (.inter (flush set last) other, rest)
    | .hyphen =>
      let hyphen := '-'.toNat
      match last with
      | .nothing => next set (.code hyphen) rest
      | .complete => next set (.code hyphen) rest
      | .kind =>
        match ← token? flags rest with
        | (.close, _) | (.and, _) => next set (.code hyphen) rest
        | _ => none
      | .code low =>
        let range (high : Nat) (rest : List Char) : Option (CharSet × List Char) :=
          if high < low then none else next (.union set (.range low high)) .complete rest
        match ← token? flags rest with
        | (.close, _) | (.and, _) => next (flush set last) (.code hyphen) rest
        | (.code high, after) => range high after
        | (.hyphen, after) => range hyphen after
        | (.kind _, _) => none
        | (.nested, _) => next set .complete rest

/-- Reads a bracket expression after its opening bracket, in which others may be nested so
deep. A closing bracket right at the front is a member, if another one follows. -/
def read? (flags : Flags) : Nat → List Char → Option Reading
  | 0, _ => none
  | depth + 1, text => do
    let complement := text.head? = some '^'
    let text := if complement then text.drop 1 else text
    let steps := text.length + 1
    let nested := read? flags depth
    let (base, rest) ←
      match text with
      | ']' :: rest =>
        if occurs ']' rest then members flags nested steps .none (.code ']'.toNat) rest else none
      | text => members flags nested steps .none .nothing text
    return ⟨complement, base, rest⟩

end Bracket

end ScopeTokenizer.Regex
