import ScopeTokenizer.Regex.Bracket
import ScopeTokenizer.Regex.Expr

/-!
# Reading patterns

The concrete syntax of patterns. A pattern is read from front to back; groups are numbered
in the order in which they open. Whether unnamed groups capture, and which groups have
names, is known beforehand: a pattern is read twice, the first time to find that out.

Not all of the dialect is known: callouts, clusters and segments of text, absent groups with a
range, properties of blocks, and options for a whole pattern are refused.
-/

namespace ScopeTokenizer.Regex

open Unicode

/-- The groups that have names, in the order in which they open. A name may be given more
than once. -/
abbrev Names := List (List Char × Nat)

/-- What is known about a pattern while it is read. -/
structure Context where
  /-- Groups without a name capture. -/
  captureAll : Bool := true
  /-- All names of the pattern, once they are known. -/
  names : Option Names := none

/-- The text that is left to read, with what was seen before it. -/
structure Source where
  rest : List Char
  /-- How many capturing groups were opened. -/
  groups : Nat := 0
  /-- The names of those groups. -/
  names : Names := []
  /-- Numbers of groups that were referred to or called. -/
  mentioned : List Nat := []
  /-- Some group was referred to, or called, by its number. -/
  usesNumbers : Bool := false

/-- Takes a part of a pattern off the front of a text. Nothing is said about a text that
cannot be read. -/
abbrev Parser := ReaderT Context (StateT Source Option)

/-- How often something is repeated. -/
structure Quantifier where
  low : Nat
  high : Option Nat
  greedy : Bool := true
  possessive : Bool := false

namespace Quantifier

/-- No number of repetitions may be larger. -/
def maxCount : Nat := 100000

/-- Repeats an expression. -/
def apply (quantifier : Quantifier) (body : Expr) : Expr :=
  let expr := .repeated quantifier.low quantifier.high quantifier.greedy body
  if quantifier.possessive then .atomic expr else expr

/-- The marks behind a quantifier. -/
def marks (quantifier : Quantifier) : List Char → Quantifier × List Char
  | '?' :: rest => ({ quantifier with greedy := false, possessive := false }, rest)
  | rest => (quantifier, rest)

/-- The marks behind a quantifier of one character, which may make it possessive. -/
def marksOrPlus (quantifier : Quantifier) : List Char → Quantifier × List Char
  | '+' :: rest => ({ quantifier with possessive := true }, rest)
  | rest => quantifier.marks rest

/-- The quantifier with two bounds, which may be given in either order; in the wrong one,
they are possessive. -/
def ofBounds (low high : Nat) : Quantifier :=
  if high < low then { low := high, high := some low, possessive := true }
  else { low, high := some high }

/-- An interval after its opening brace. The outer `none` stands for a bound that is too
large, the inner one for a brace that begins no interval. -/
def interval (text : List Char) : Option (Option (Quantifier × List Char)) :=
  let first := text.takeWhile isAsciiDigit
  let low := Code.number 10 first
  let rest := text.drop first.length
  if maxCount < low then none
  else match rest with
    | '\x7d' :: rest => if first = [] then some none else some (some ({ low, high := some low }, rest))
    | ',' :: rest =>
      let second := rest.takeWhile isAsciiDigit
      let high := Code.number 10 second
      if maxCount < high then none
      else match rest.drop second.length with
        | '\x7d' :: rest =>
          if second = [] then
            if first = [] then some none
            else some (some (marks { low, high := none } rest))
          else some (some ((ofBounds low high).marks rest))
        | _ => some none
    | _ => some none

/-- The quantifier at the front of a text. The outer `none` stands for one that cannot be
read, the inner one for text that is no quantifier. -/
def read (text : List Char) : Option (Option (Quantifier × List Char)) :=
  match text with
  | '*' :: rest => some (some (marksOrPlus { low := 0, high := none } rest))
  | '+' :: rest => some (some (marksOrPlus { low := 1, high := none } rest))
  | '?' :: rest => some (some (marksOrPlus { low := 0, high := some 1 } rest))
  | '\x7b' :: rest => interval rest
  | _ => some none

end Quantifier

/-- The text behind a comment, which a parenthesis closes. -/
def afterComment? : List Char → Option (List Char)
  | [] => none
  | '\\' :: _ :: rest => afterComment? rest
  | ')' :: rest => some rest
  | _ :: rest => afterComment? rest

/-- Drops comments and, in an extended pattern, blanks. `steps` need not be more than the
length of the text. -/
def skipIgnored (extended : Bool) : Nat → List Char → Option (List Char)
  | steps + 1, '(' :: '?' :: '#' :: rest => (afterComment? rest).bind (skipIgnored extended steps)
  | steps + 1, c :: rest =>
    if extended && isBlank c then skipIgnored extended steps rest
    else if extended && c = '#' then
      skipIgnored extended steps (rest.dropWhile (· ≠ '\n'))
    else some (c :: rest)
  | _, text => some text

/-- Reads the letters that turn options on, or off behind a hyphen, up to the character
behind them. -/
def readFlags (on : Bool) (flags : Flags) : List Char → Option (Flags × List Char)
  | [] => none
  | c :: rest =>
    match c with
    | '-' => readFlags false flags rest
    | 'i' => readFlags on { flags with anyCase := on } rest
    | 'm' => readFlags on { flags with dotAll := on } rest
    | 'x' => readFlags on { flags with extended := on } rest
    | 'W' => readFlags on { flags with asciiWord := on } rest
    | 'D' => readFlags on { flags with asciiDigit := on } rest
    | 'S' => readFlags on { flags with asciiSpace := on } rest
    | 'P' => readFlags on { flags with asciiNames := on } rest
    | _ => some (flags, c :: rest)

/-- What stands between two other parts of a pattern. -/
inductive Item where
  | expr (expr : Expr)
  /-- Options for the rest of the group. -/
  | flags (flags : Flags)

namespace Parser

/-- The text that is left. -/
def text : Parser (List Char) := return (← get).rest

/-- Goes on with another text. -/
def setText (rest : List Char) : Parser Unit := modify fun source => { source with rest }

/-- Takes the next character. -/
def next : Parser Char := do
  match ← text with
  | [] => failure
  | c :: rest =>
    setText rest
    return c

/-- Takes a character that has to follow. -/
def expect (c : Char) : Parser Unit := do
  if (← next) ≠ c then failure

/-- Takes what some function finds at the front of the text. -/
def take {α : Type} (read : List Char → Option (α × List Char)) : Parser α := do
  match read (← text) with
  | some (value, rest) =>
    setText rest
    return value
  | none => failure

/-- Drops comments and, in an extended pattern, blanks. -/
def skip (flags : Flags) : Parser Unit := do
  let rest ← text
  match skipIgnored flags.extended rest.length rest with
  | some rest => setText rest
  | none => failure

/-- Notes that groups were referred to or called. -/
def mention (groups : List Nat) (byNumber : Bool) : Parser Unit :=
  modify fun source => { source with
    mentioned := groups ++ source.mentioned
    usesNumbers := source.usesNumbers || byNumber }

/-- Opens a capturing group. -/
def openGroup : Parser Nat := do
  let number := (← get).groups + 1
  modify fun source => { source with groups := number }
  return number

/-- The expression of a code point. -/
def pointExpr (flags : Flags) (number : Nat) : Expr :=
  if h : number.isValidChar then
    let c := Char.ofNatAux number h
    if flags.anyCase then .folded (fold c) else .literal c
  else .fail

/-- The expression of a character that was escaped in some way. -/
def codeExpr (flags : Flags) (code : Code) : Parser Expr := do
  return pointExpr flags (← take code.complete?)

/-- The characters that fold to several ones, with what they fold to; shorter foldings go
first. -/
def longFoldings : List (Char × List Char) :=
  let long := CaseMapping.fold.entries.toList.filter fun entry => 1 < entry.2.length
  (long.filter fun entry => entry.2.length = 2).map (fun (code, image) => (Char.ofNat code, image))
    ++ (long.filter fun entry => 2 < entry.2.length).map fun (code, image) =>
      (Char.ofNat code, image)

/-- The expression of a bracket expression. Where case makes no difference, the set is
extended before its complement is taken, and a character that folds to several ones also
stands for those. -/
def bracketExpr (flags : Flags) (reading : Bracket.Reading) : Expr :=
  if flags.anyCase then
    let base := .anyCase reading.base
    if reading.complement then .set (.compl base)
    else
      let images := (longFoldings.filter fun entry => reading.base.contains entry.1).map (·.2)
      images.eraseDups.foldl (fun expr image => .alt expr (.folded image)) (.set base)
  else .set reading.set

/-- A line end of any kind. -/
def anyLineEnd : Expr :=
  .atomic (.alt (.seq (.literal '\r') (.literal '\n')) (.set .lineEnd))

/-- What a reference says about its group. -/
inductive Target where
  | number (n : Nat)
  /-- So many groups back, counted from the one opened last. -/
  | back (n : Nat)
  /-- So many groups ahead. -/
  | ahead (n : Nat)
  | name (name : List Char)

/-- The group that a text in brackets or quotes names. -/
def target? (text : List Char) : Option Target :=
  let digits? (text : List Char) : Option Nat :=
    if text ≠ [] ∧ text.all isAsciiDigit then some (Code.number 10 text) else none
  match text with
  | [] => none
  | '-' :: rest => (digits? rest).bind fun n => if n = 0 then none else some (.back n)
  | '+' :: rest => (digits? rest).bind fun n => if n = 0 then none else some (.ahead n)
  | c :: _ =>
    if isAsciiDigit c then (digits? text).map .number
    else if text.all isWord then some (.name text) else none

/-- Reads text up to the character that closes it. -/
def upTo (close : Char) : Parser (List Char) := do
  let rest ← text
  let inner := rest.takeWhile fun c => c ≠ close && c ≠ ')'
  setText (rest.drop inner.length)
  expect close
  return inner

/-- The character that closes a name. -/
def closing (c : Char) : Char := if c = '<' then '>' else c

/-- Reads which group is meant, up to a closing character. -/
def readTarget (close : Char) : Parser Target := do
  match target? (← upTo close) with
  | some target => return target
  | none => failure

/-- The groups that a reference means, the last of equal names first. Names have to be
given before they are referred to. -/
def referenced (target : Target) : Parser (List Nat) := do
  let source ← get
  match target with
  | .number 0 => failure
  | .number n => mention [n] true; return [n]
  | .back n =>
    if source.groups < n then failure
    mention [source.groups + 1 - n] true
    return [source.groups + 1 - n]
  | .ahead n => mention [source.groups + n] true; return [source.groups + n]
  | .name name =>
    let groups := (source.names.filter (·.1 = name)).map (·.2)
    if groups = [] then failure
    return groups.reverse

/-- The group that is called. Names may be given after they are called, but not twice. -/
def called (target : Target) : Parser Nat := do
  let source ← get
  match target with
  | .number n => mention [n] (n ≠ 0); return n
  | .back n =>
    if source.groups < n then failure
    mention [source.groups + 1 - n] true
    return source.groups + 1 - n
  | .ahead n => mention [source.groups + n] true; return source.groups + n
  | .name name =>
    match (← read).names with
    | none => return 0
    | some names =>
      match names.filter (·.1 = name) with
      | [(_, number)] => return number
      | _ => failure

/-- Reads a number behind a backslash: a reference, if there are so many groups already or
the number has a single digit, and else the octal number of a byte. -/
def numeric (flags : Flags) (c : Char) : Parser Expr := do
  let rest ← text
  let digits := c :: rest.takeWhile isAsciiDigit
  let number := Code.number 10 digits
  if c ≠ '0' ∧ (number ≤ (← get).groups ∨ number ≤ 9) then
    setText (rest.drop (digits.length - 1))
    mention [number] true
    return .backref [number] flags.anyCase
  else if c = '8' ∨ c = '9' then
    return pointExpr flags c.toNat
  else
    setText (c :: rest)
    codeExpr flags (← take (Code.octal 3))

/-- Reads what follows a backslash. -/
def escape (flags : Flags) : Parser Expr := do
  let c ← next
  match flags.class? c with
  | some set => return .set set
  | none =>
    match c with
    | 'b' => return .anchor (.boundary flags.word)
    | 'B' => return .anchor (.noBoundary flags.word)
    | 'A' => return .anchor .textStart
    | 'Z' => return .anchor .lastLineEnd
    | 'z' => return .anchor .textEnd
    | 'G' => return .anchor .searchStart
    | 'K' => return .keep
    | 'R' => return anyLineEnd
    | 'N' => return .set (.compl (.single 0x0a))
    | 'O' => return .set .all
    | 'X' | 'y' | 'Y' => failure
    | c =>
      let follows := (← text).head?
      if (c = 'k' ∨ c = 'g') ∧ (follows = some '<' ∨ follows = some '\'') then
        let target ← readTarget (closing (← next))
        if c = 'k' then return .backref (← referenced target) flags.anyCase
        else return .call (← called target)
      else if (c = 'p' ∨ c = 'P') ∧ follows = some '\x7b' then
        return .set (← take (Bracket.property? flags c))
      else if isAsciiDigit c then numeric flags c
      else codeExpr flags (← take (Code.read? c))

/-- Whether a text can name a group. -/
def isName (name : List Char) : Bool :=
  match name with
  | [] => false
  | c :: _ => !isAsciiDigit c && name.all isWord

section Groups

variable (alternatives : Flags → Parser Expr) (flags : Flags)

/-- Reads the rest of a group and the parenthesis that closes it. -/
def body (flags : Flags) : Parser Expr := do
  let expr ← alternatives flags
  expect ')'
  return expr

/-- Reads a group that captures. -/
def capturing : Parser Expr := do
  let number ← openGroup
  return .group number (← body alternatives flags)

/-- Reads a group that captures under a name. -/
def named (close : Char) : Parser Expr := do
  let name ← upTo close
  if !isName name then failure
  modify fun source => { source with names := source.names ++ [(name, source.groups + 1)] }
  capturing alternatives flags

/-- Reads a test of the text behind. -/
def lookBehind (negative : Bool) : Parser Expr := do
  let expr ← body alternatives flags
  if !expr.allowedBehind negative then failure
  return .lookBehind negative expr

/-- Reads the group whose capture is tested for, in brackets or quotes of its own or without
any, and the parenthesis behind it. -/
def captureTest (quoted : Bool) : Parser Expr := do
  if quoted then
    let target ← readTarget (closing (← next))
    expect ')'
    return .captured (← referenced target)
  else return .captured (← referenced (← readTarget ')'))

/-- Reads what follows a test in either case. Only a test for a capture may stand alone. -/
def choices (isCheck : Bool) (test : Expr) : Parser Expr := do
  let front := (← text).head?
  if front = some ')' then
    if !isCheck then failure
    expect ')'
    return test
  else if front = some '|' then
    expect '|'
    return .conditional test .empty (← body alternatives flags)
  else match ← body alternatives flags with
    | .alt yes no => return .conditional test yes no
    | yes => return .conditional test yes .empty

/-- Reads a conditional after the parenthesis that opens its test: a test for a capture or an
expression, and what follows in either case. -/
def conditional : Parser Expr := do
  let start := (← text).head?
  let quoted := start == some '<' || start == some '\''
  if quoted || start.any (fun c => isAsciiDigit c || c = '-' || c = '+') then
    choices alternatives flags true (← captureTest quoted)
  else choices alternatives flags false (← body alternatives flags)

/-- Reads options, which apply to the rest of the enclosing group or to a group of their
own. -/
def options : Parser Item := do
  let changed ← take (readFlags true flags)
  match ← next with
  | ')' => return .flags changed
  | ':' => return .expr (← body alternatives changed)
  | _ => failure

/-- Reads a group that begins with an angle bracket: a test of the text behind, or a group
with a name. -/
def angled : Parser Expr := do
  let front := (← text).head?
  if front = some '=' then
    expect '='
    lookBehind alternatives flags false
  else if front = some '!' then
    expect '!'
    lookBehind alternatives flags true
  else named alternatives flags '>'

/-- Reads a group after its opening parenthesis and a question mark. -/
def marked : Parser Item := do
  match ← next with
  | ':' => return .expr (← body alternatives flags)
  | '=' => return .expr (.look false (← body alternatives flags))
  | '!' => return .expr (.look true (← body alternatives flags))
  | '>' => return .expr (.atomic (← body alternatives flags))
  | '~' =>
    if (← text).head? = some '|' then failure
    return .expr (.absent (← body alternatives flags))
  | '\'' => return .expr (← named alternatives flags '\'')
  | '(' => return .expr (← conditional alternatives flags)
  | '<' => return .expr (← angled alternatives flags)
  | c =>
    if c = ')' then failure
    setText (c :: (← text))
    options alternatives flags

/-- Reads a group after its opening parenthesis. -/
def group : Parser Item := do
  let front := (← text).head?
  if front = some '?' then
    expect '?'
    marked alternatives flags
  else if front = some '*' then failure
  else if (← read).captureAll then return .expr (← capturing alternatives flags)
  else return .expr (← body alternatives flags)

/-- Reads a bracket expression after its opening bracket. -/
def bracket : Parser Expr := do
  let rest ← text
  match Bracket.read? flags (rest.length + 1) rest with
  | some reading =>
    setText reading.rest
    return bracketExpr flags reading
  | none => failure

/-- Reads one part of a pattern, without the quantifiers behind it. -/
def atom : Parser Item := do
  match Quantifier.read (← text) with
  | some none =>
    match ← next with
    | '.' => return .expr (.set (if flags.dotAll then .all else .compl (.single 0x0a)))
    | '^' => return .expr (.anchor .lineStart)
    | '$' => return .expr (.anchor .lineEnd)
    | '\\' => return .expr (← escape flags)
    | '(' => group alternatives flags
    | '[' => return .expr (← bracket flags)
    | c => return .expr (pointExpr flags c.toNat)
  | _ => failure

/-- Reads the quantifiers behind an expression, of which there are fewer than there are
steps. -/
def quantified (expr : Expr) : Nat → Parser Expr
  | 0 => failure
  | steps + 1 => do
    skip flags
    match Quantifier.read (← text) with
    | some (some (quantifier, rest)) =>
      setText rest
      quantified (quantifier.apply expr) steps
    | some none => return expr
    | none => failure

/-- Reads a sequence, up to a bar, a closing parenthesis or the end. -/
def branch : Nat → Parser Expr
  | 0 => failure
  | steps + 1 => do
    skip flags
    let front := (← text).head?
    if front = none ∨ front = some '|' ∨ front = some ')' then return .empty
    else match ← atom alternatives flags with
      | .flags changed => alternatives changed
      | .expr expr =>
        let expr ← quantified flags expr ((← text).length + 1)
        return expr.append (← branch steps)

end Groups

/-- Reads a choice, up to a closing parenthesis or the end. There is no need for more steps
than there are characters left. -/
def alternatives : Nat → Flags → Parser Expr
  | 0, _ => failure
  | steps + 1, flags => do
    let first ← branch (alternatives steps) flags ((← text).length + 1)
    if (← text).head? = some '|' then
      expect '|'
      return .alt first (← alternatives steps flags)
    else return first

/-- Reads a whole pattern. -/
def pattern : Parser Expr := do
  let expr ← alternatives ((← text).length + 1) {}
  if (← text) ≠ [] then failure
  return expr

end Parser

end ScopeTokenizer.Regex
