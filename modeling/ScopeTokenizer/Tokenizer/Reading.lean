import ScopeTokenizer.Tokenizer.Basic
import ScopeTokenizer.Tokenizer.Token

/-!
# Reading lines

A line is read from left to right by a loop of single steps. A step looks for the next match
of the innermost region, of the patterns inside it and of the injections, and then opens a
region, closes one, or takes the match as it is. The text of a capture may be read again
within a step, by a loop of its own.

Regions of lines are looked at first: their conditions have to hold at the start of a line.
-/

namespace ScopeTokenizer

open Grammar Pattern Style

variable {engine : Engine}

/-- Where reading has come to on a line. -/
structure Cursor where
  position : Nat
  /-- Nothing of the text was taken yet. -/
  firstLine : Bool
  /-- Where the anchor for the current place matches. -/
  anchor : Option Nat := none
  nesting : Nesting

/-- What reading a line changes. -/
structure Progress (engine : Engine) where
  tokenizer : Tokenizer engine
  tokens : LineTokens
  warnings : List Warning := []

/-- Reads with a library to collect injections from. There is no answer if reading does not
come to an end in time. -/
abbrev Reading (engine : Engine) := ReaderT Library (StateT (Progress engine) Option)

/-- What a step leads to. -/
inductive Outcome where
  | next (cursor : Cursor)
  /-- The line is read. -/
  | done (nesting : Nesting)

namespace Cursor

/-- The anchors that may match here. -/
def anchors (cursor : Cursor) : Anchors :=
  .ofPosition cursor.firstLine cursor.anchor cursor.position

/-- The scopes of the text here. -/
def scopes (cursor : Cursor) : ScopePath := cursor.nesting.top.contentScopes

/-- The cursor behind a match, if the match ends further on. -/
def advance (cursor : Cursor) (stop : Nat) : Cursor :=
  if cursor.position < stop then { cursor with position := stop, firstLine := false }
  else cursor

end Cursor

namespace Reading

/-- The rule with a number. -/
def rule? (id : RuleId) : Reading engine (Option Rule) := return (← get).tokenizer.rule? id

/-- Adds a warning. -/
def warn (warning : Warning) : Reading engine Unit :=
  modify fun progress => { progress with warnings := progress.warnings ++ [warning] }

/-- Asks the tokenizer for something that it may have to make. -/
def use {α : Type} (ask : Tokenizer engine → α × Tokenizer engine × List Warning) :
    Reading engine α := do
  let (answer, tokenizer, warnings) := ask (← get).tokenizer
  modify fun progress => { progress with
    tokenizer
    warnings := progress.warnings ++ warnings }
  return answer

/-- Goes further in by the scopes of a text, if there is one. -/
def enter (path : ScopePath) (scopes : Option String) : Reading engine ScopePath :=
  use fun tokenizer => tokenizer.enterAll path scopes

/-- Cuts off the token up to a position. -/
def cut (scopes : ScopePath) (stop : Nat) : Reading engine Unit :=
  modify fun progress => { progress with tokens := progress.tokens.add scopes stop }

/-! ## Matches -/

section Matches

variable (line : Line) (cursor : Cursor)

/-- Searches inside a rule. -/
def search (rule : Rule) (filled : Option String) :
    Reading engine (Option (SetMatch Target)) := do
  let scanner ← use fun tokenizer => tokenizer.ruleScanner rule filled cursor.anchors
  return scanner.findAt line cursor.position

/-- The next match of the innermost region. -/
def regularMatch : Reading engine (Option (SetMatch Target)) := do
  match ← rule? cursor.nesting.top.rule with
  | some rule => search line cursor rule cursor.nesting.top.pattern
  | none => return none

/-- An injected match with the priority of its injection. -/
abbrev Injected := Selector.Priority × SetMatch Target

/-- The first match of injections that begins before the best one so far. None can be better
than one at the cursor. -/
def bestInjected (names : List String) :
    List Injection → Option Injected → Reading engine (Option Injected)
  | [], best => return best
  | injection :: others, best => do
    if injection.matcher.holds names then
      match ← rule? injection.rule with
      | none => bestInjected names others best
      | some rule =>
        match ← search line cursor rule none with
        | none => bestInjected names others best
        | some found =>
          if best.any fun best => best.2.start ≤ found.start then bestInjected names others best
          else if found.start = cursor.position then return some (injection.priority, found)
          else bestInjected names others (some (injection.priority, found))
    else bestInjected names others best

/-- The better one of a regular match and an injected one. -/
def better (regular : Option (SetMatch Target)) (injected : Option Injected) :
    Option (SetMatch Target) :=
  match regular, injected with
  | regular, none => regular
  | none, some (_, injected) => some injected
  | some regular, some (priority, injected) =>
    if injected.start < regular.start ||
      (injected.start == regular.start && priority == .left) then some injected
    else some regular

/-- The next match. -/
def nextMatch : Reading engine (Option (SetMatch Target)) := do
  let regular ← regularMatch line cursor
  let library ← read
  let injections ← use fun tokenizer => tokenizer.collected library
  if (regular.any fun found => found.start == cursor.position) &&
      injections.all fun injection => injection.priority != .left then
    return regular
  else return better regular (← bestInjected line cursor cursor.scopes.names injections none)

end Matches

/-! ## Captures -/

/-- A capture whose scopes apply up to its end. -/
structure OpenCapture where
  scopes : ScopePath
  stop : Nat

/-- The scopes inside the capture opened last, or those of the match itself. -/
def innermost (scopes : ScopePath) : List OpenCapture → ScopePath
  | capture :: _ => capture.scopes
  | [] => scopes

/-- Closes the captures that end at a position or before it. -/
def closeUpTo (position : Nat) : List OpenCapture → Reading engine (List OpenCapture)
  | [] => return []
  | first :: others =>
    if first.stop ≤ position then do
      cut first.scopes first.stop
      closeUpTo position others
    else return first :: others

/-- Closes all captures. -/
def closeAll (captures : List OpenCapture) : Reading engine Unit :=
  captures.forM fun capture => cut capture.scopes capture.stop

section Captures

variable (reread : Line → Cursor → Reading engine Nesting) (line : Line) (cursor : Cursor)
  (captures : Captures)

/-- Reads the text of a capture again, by another rule. It begins in the scopes of the rule
whose capture it is, those of captures around it left out. -/
def again (rule : Rule) (inner : RuleId) (span : Span) : Reading engine Unit := do
  let nameScopes ← enter cursor.scopes (rule.nameFor line captures)
  let contentScopes ← enter nameScopes (rule.contentNameFor line captures)
  let frame : Frame := { rule := inner, nameScopes, contentScopes, entered := some span.1 }
  let _ ← reread (line.truncate span.2)
    { position := span.1
      firstLine := cursor.firstLine && span.1 == 0
      nesting := .push cursor.nesting frame }

/-- Goes on to a capture, closing those that end before it, and opens it. -/
def openCapture (opened : List OpenCapture) (id : RuleId) (span : Span) :
    Reading engine (List OpenCapture) := do
  let opened ← closeUpTo span.1 opened
  let around := innermost cursor.scopes opened
  cut around span.1
  match ← rule? id with
  | none => return opened
  | some rule =>
    match rule.kind with
    | .capture _ (some inner) =>
      again reread line cursor captures rule inner span
      return opened
    | .capture _ none =>
      match rule.nameFor line captures with
      | some name => return ⟨← enter around (some name), span.2⟩ :: opened
      | none => return opened
    | _ => return opened

/-- Goes through the groups of a match, each with its rule. Empty captures do not count, and
none does from the first one on that begins behind the match. -/
def openCaptures (stop : Nat) :
    List (Option RuleId × Option Span) → List OpenCapture → Reading engine (List OpenCapture)
  | [], opened => return opened
  | (some id, some span) :: others, opened =>
    if span.1 = span.2 then openCaptures stop others opened
    else if stop < span.1 then return opened
    else do openCaptures stop others (← openCapture reread line cursor captures opened id span)
  | _ :: others, opened => openCaptures stop others opened

/-- Cuts a match up by its captures. -/
def readCaptures (rules : List (Option RuleId)) : Reading engine Unit := do
  match captures with
  | some whole :: _ =>
    closeAll (← openCaptures reread line cursor captures whole.2 (rules.zip captures) [])
  | _ => return

end Captures

/-! ## Steps -/

section Steps

variable (reread : Line → Cursor → Reading engine Nesting) (line : Line) (cursor : Cursor)

/-- Leaves the rest of a line to the innermost region of a nesting. -/
def finish (nesting : Nesting) : Reading engine Outcome := do
  cut nesting.top.contentScopes line.length
  return .done nesting

/-- Closes the innermost region. If that was opened at the same position, it would be opened
again for ever; it stays open, and the line is done. -/
def close (found : SetMatch Target) : Reading engine Outcome := do
  let nesting := cursor.nesting
  cut cursor.scopes found.start
  let closing := nesting.withContentScopes nesting.top.nameScopes
  let rules := match (← rule? nesting.top.rule).map Rule.kind with
    | some (.region _ _ closing _ _) => closing.captures
    | _ => []
  readCaptures reread line { cursor with nesting := closing } found.captures rules
  cut closing.top.contentScopes found.stop
  if found.stop ≤ cursor.position ∧ closing.top.entered = some cursor.position then
    finish line closing
  else
    let cursor := { cursor with nesting := closing.pop, anchor := closing.top.anchor }
    return .next (cursor.advance found.stop)

/-- Passes over an empty match, and over a character if there is nothing else to pass over. -/
def pass (found : SetMatch Target) : Reading engine Outcome := do
  let position := if cursor.position < found.stop then found.stop else cursor.position + 1
  if line.length ≤ position then finish line cursor.nesting
  else return .next { cursor with position, firstLine := false }

/-- Opens a region whose opening was found. `frame` is the region before anything is known
about its inside, and `source` the pattern that closes it or that its lines have to match. If
the same rule has already opened a region here, it would do so for ever; it is not opened, and
the line is done. -/
def openRegion (found : SetMatch Target) (rule : Rule) (frame : Frame) (opening : Matching)
    (source : Source) : Reading engine Outcome := do
  let nesting := cursor.nesting
  readCaptures reread line { cursor with nesting := .push nesting frame } found.captures
    opening.captures
  cut frame.nameScopes found.stop
  let contentScopes ← enter frame.nameScopes (rule.contentNameFor line found.captures)
  let frame := { frame with
    contentScopes
    pattern :=
      if source.hasReference then some (source.resolveReferences line found.captures) else none }
  if found.stop ≤ cursor.position ∧ nesting.opened frame then finish line nesting
  else
    let cursor := { cursor with nesting := .push nesting frame, anchor := some found.stop }
    return .next (cursor.advance found.stop)

/-- Takes the match of a rule. -/
def take (found : SetMatch Target) (id : RuleId) : Reading engine Outcome := do
  let nesting := cursor.nesting
  match ← rule? id with
  | none => finish line nesting
  | some rule =>
    if found.start = found.stop ∧ rule.isSingle then pass line cursor found
    else
      cut cursor.scopes found.start
      let scopes ← enter cursor.scopes (rule.nameFor line found.captures)
      let frame : Frame :=
        { rule := id
          nameScopes := scopes
          contentScopes := scopes
          tookLineEnd := found.stop == line.length
          entered := some cursor.position
          anchor := cursor.anchor }
      match rule.kind with
      | .single matching =>
        readCaptures reread line { cursor with nesting := .push nesting frame } found.captures
          matching.captures
        cut scopes found.stop
        return .next { cursor with position := found.stop, firstLine := false }
      | .region _ opening closing _ _ =>
        openRegion reread line cursor found rule frame opening closing.pattern
      | .lines _ opening condition _ =>
        openRegion reread line cursor found rule frame opening condition.pattern
      | .container _ _ | .capture _ _ =>
        warn (.patternless id)
        finish line nesting

/-- Handles the next match. -/
def step : Reading engine Outcome := do
  match ← nextMatch line cursor with
  | none => finish line cursor.nesting
  | some found =>
    match found.label with
    | .closing => close reread line cursor found
    | .rule id => take reread line cursor found id
    | .condition => finish line cursor.nesting

end Steps

/-- Reads a line from a cursor on, in at most so many steps, and gives the nesting at its end.
Reading the text of a capture again takes steps too. -/
def readFrom : Nat → Line → Cursor → Reading engine Nesting
  | 0, _, _ => failure
  | steps + 1, line, cursor => do
    match ← step (readFrom steps) line cursor with
    | .done nesting => return nesting
    | .next cursor => readFrom steps line cursor

/-! ## Conditions -/

section Conditions

variable (reread : Line → Cursor → Reading engine Nesting) (line : Line)

/-- Looks at the conditions of the regions of lines in a nesting, the outermost one first. A
condition that holds is taken as a match. The first region whose condition does not hold is
left, with all regions inside it. -/
def checkLevels : List Nesting → Cursor → Reading engine Cursor
  | [], cursor => return cursor
  | level :: levels, cursor => do
    match ← rule? level.top.rule with
    | some ⟨id, _, .lines _ _ condition _⟩ =>
      let scanner ← use fun tokenizer =>
        tokenizer.conditionScanner id condition.pattern level.top.pattern cursor.anchors
      match scanner.findAt line cursor.position with
      | none => return { cursor with nesting := level.pop }
      | some found =>
        cut level.top.contentScopes found.start
        readCaptures reread line { cursor with nesting := level } found.captures
          condition.captures
        cut level.top.contentScopes found.stop
        checkLevels levels ({ cursor with anchor := some found.stop }.advance found.stop)
    | _ => checkLevels levels cursor

/-- Looks at the conditions at the start of a line. -/
def checkConditions (cursor : Cursor) : Reading engine Cursor :=
  let anchor := if cursor.nesting.top.tookLineEnd then some 0 else none
  checkLevels reread line cursor.nesting.levels { cursor with anchor }

end Conditions

end Reading

/-- A line that was read. -/
structure LineReading (engine : Engine) where
  lineTokens : LineTokens
  /-- The length of the line with its line feed. -/
  length : Nat
  /-- The nesting for the next line. -/
  nesting : Nesting
  /-- The tokenizer with what was made while the line was read. -/
  tokenizer : Tokenizer engine
  warnings : List Warning

namespace LineReading

/-- The tokens of a line that was read for the names of scopes. -/
def tokens (reading : LineReading engine) : List Token :=
  reading.lineTokens.tokens reading.nesting.top.contentScopes reading.length

/-- The tokens of a line that was read for metadata. -/
def styledTokens (reading : LineReading engine) : List StyledToken :=
  reading.lineTokens.styledTokens reading.nesting.top.contentScopes reading.length

end LineReading

namespace Tokenizer

/-- A line with a line feed at its end, which patterns expect. -/
def terminated (text : String) : Line :=
  let chars := text.toList
  if chars.getLast? = some '\n' then .ofChars chars else .ofChars (chars ++ ['\n'])

/-- The nesting that a line begins in: the one that the line before it led to, or that of the
start of a text. -/
def resumed (tokenizer : Tokenizer engine) (previous : Option Nesting) : Nesting :=
  match previous with
  | some nesting => nesting.reset
  | none => tokenizer.initial

/-- A number of steps that reading a line does not exceed, unless the text of a capture is read
again by the rule that it was captured by. At one position every rule opens a region at most
once, and a region that was open before is closed at most once. -/
def stepLimit (tokenizer : Tokenizer engine) (library : Library) (line : Line)
    (nesting : Nesting) : Nat :=
  let (_, collected, _) := tokenizer.collected library
  let rules := collected.compilation.table.size + 2
  let perLine := (line.length + 1) * (2 * rules + 1) + nesting.height
  perLine * rules * (line.length + 1)

/-- Reads a line in at most so many steps, given the nesting that the line before it led to, or
none if it is the first one. -/
def readLineWithin (tokenizer : Tokenizer engine) (steps : Nat) (library : Library)
    (text : String) (previous : Option Nesting) (styled : Bool) : Option (LineReading engine) :=
  let line := terminated text
  let cursor : Cursor :=
    { position := 0, firstLine := previous.isNone, nesting := tokenizer.resumed previous }
  let readFrom := Reading.readFrom steps
  let reading : Reading engine Nesting := do
    readFrom line (← Reading.checkConditions readFrom line cursor)
  ((reading.run library).run { tokenizer, tokens := { styled } }).map fun (nesting, progress) =>
    { lineTokens := progress.tokens
      length := line.length
      nesting
      tokenizer := progress.tokenizer
      warnings := progress.warnings }

/-- Reads a line for tokens of one kind, given the nesting that the line before it led to, or
none if it is the first one. -/
def readLine (tokenizer : Tokenizer engine) (library : Library) (text : String)
    (previous : Option Nesting) (styled : Bool) : Option (LineReading engine) :=
  tokenizer.readLineWithin
    (tokenizer.stepLimit library (terminated text) (tokenizer.resumed previous))
    library text previous styled

end Tokenizer

end ScopeTokenizer
