import ScopeTokenizer.Regex.Engine
import ScopeTokenizer.Registry

/-!
# The command line

Reads the lines of a file with a grammar and prints their tokens: with the names of their
scopes, or with their metadata. The first of the given grammars is used, unless another one
is asked for by its scope name; the others can be included and injected.
-/

namespace ScopeTokenizer.CommandLine

open Grammar Pattern Text

variable {engine : Engine}

/-- The text of a file, or why it cannot be had. -/
abbrev FileText := Except FileFault String

/-- The text that bytes encode. -/
def textOfBytes (bytes : ByteArray) : FileText :=
  match String.fromUTF8? bytes with
  | some text => .ok text
  | none => .error .notText

/-- What is asked for, with the names of files. -/
structure Arguments where
  input : String
  grammars : List String
  scope : Option String := none
  theme : Option String := none
  styled : Bool := false
  deriving DecidableEq, Repr

/-- What is asked for, with the texts of the files. -/
structure Request where
  input : FileText
  grammars : List FileText
  scope : Option String
  theme : Option FileText
  /-- Metadata is printed, not scopes. -/
  styled : Bool

/-- What is printed, and how the program ends. -/
structure Output where
  code : Nat
  lines : List String
  errors : String
  deriving DecidableEq, Repr

/-- Arguments that were read in part. -/
structure Partial where
  input : Option String := none
  grammars : List String := []
  scope : Option String := none
  theme : Option String := none
  styled : Bool := false

namespace Arguments

/-- Reads arguments. -/
def read (found : Partial) : List String → Option Arguments
  | "-b" :: rest | "--binary" :: rest => read { found with styled := true } rest
  | "-g" :: name :: rest | "--grammar" :: name :: rest =>
    read { found with grammars := found.grammars ++ [name] } rest
  | "-s" :: scope :: rest | "--scope" :: scope :: rest =>
    read { found with scope := some scope } rest
  | "-t" :: name :: rest | "--theme" :: name :: rest =>
    read { found with theme := some name } rest
  | name :: rest =>
    if name.startsWith "-" ∨ found.input.isSome then none
    else read { found with input := some name } rest
  | [] =>
    match found.input with
    | some input =>
      if found.grammars.isEmpty then none
      else some { found with input := input }
    | none => none

end Arguments

/-- How an error about a file is printed. -/
def fileErrorText : FileFault → String
  | .missing => "Os \x7b code: 2, kind: NotFound, message: \"No such file or directory\" \x7d"
  | .notText =>
    "Error \x7b kind: InvalidData, message: \"stream did not contain valid UTF-8\" \x7d"

/-- How an error is printed. Nothing is said about what is wrong with a JSON text. -/
def errorText (error : GrammarError) : String :=
  match error with
  | .file fault =>
    let text := fileErrorText fault
    s!"Error: {text}\n"
  | .json _ => "Error: Json"
  | .missingScopeName => "Error: MissingScopeName\n"
  | .unresolvedInclude text grammar =>
    let text := quote text
    let grammar := quote grammar
    s!"Error: UnresolvedInclude \x7b include: {text}, grammar: {grammar} \x7d\n"
  | .captureOutOfRange key grammar =>
    let key := quote key
    let grammar := quote grammar
    s!"Error: InvalidCapture \x7b capture: {key}, grammar: {grammar} \x7d\n"
  | .unknownGrammar name =>
    let name := quote name
    s!"Error: GrammarNotFound({name})\n"
  | error =>
    let text := error.message
    s!"Error: {text}\n"

/-- A text without the carriage returns that stand before line feeds. -/
def dropReturns : List Char → List Char
  | '\r' :: '\n' :: rest => '\n' :: dropReturns rest
  | c :: rest => c :: dropReturns rest
  | [] => []

/-- A line of a text without what ends it. -/
def withoutReturn (line : List Char) : List Char :=
  if line.getLast? = some '\r' then line.dropLast else line

/-- The lines of a text. A line feed at the end begins no further line. -/
def linesOf (text : List Char) : List String :=
  let pieces := pieces (· == '\n') text
  let ended := pieces.dropLast.map fun line => String.ofList (withoutReturn line)
  match pieces.getLast? with
  | some [] | none => ended
  | some last => ended ++ [String.ofList last]

/-- A token with its scopes, as it is printed. -/
def tokenText (line : Line) (token : Token) : String :=
  let start := token.start
  let stop := token.stop
  let text := quote (String.ofList (line.slice token.start token.stop))
  let scopes := " ".intercalate token.scopes
  s!"  [{start}..{stop}] {text} {scopes}"

/-- A token with its metadata, as it is printed. -/
def styledTokenText (token : StyledToken) : String :=
  let start := token.start
  let metadata := token.metadata.describe
  s!"  {start} {metadata}"

/-- The lines printed for a line that was read. -/
def lineTexts (styled : Bool) (index : Nat) (text : String)
    (reading : LineReading engine) : List String :=
  let quoted := quote text
  let tokens :=
    if styled then reading.styledTokens.map styledTokenText
    else reading.tokens.map (tokenText (Line.ofString text))
  s!"line {index}: {quoted}" :: tokens

/-- Reads lines one after the other, each from the nesting that the one before it led to. -/
def printLines (styled : Bool) (library : Library) :
    Tokenizer engine → Option Nesting → Nat → List String →
      Except GrammarError (List String)
  | _, _, _, [] => .ok []
  | tokenizer, nesting, index, text :: texts =>
    match tokenizer.readLine library text nesting styled with
    | none => .error .endless
    | some reading =>
      (printLines styled library reading.tokenizer (some reading.nesting) (index + 1) texts).map
        (lineTexts styled index text reading ++ ·)

/-- The text of a file. -/
def fileText (file : FileText) : Except GrammarError String :=
  match file with
  | .ok text => .ok text
  | .error fault => .error (.file fault)

/-- The theme of a file, or the empty one. -/
def themeOf (file : Option FileText) : Except GrammarError Theme :=
  match file with
  | none => .ok .empty
  | some file => do
    match Theme.ThemeDef.ofJson (← fileText file) with
    | .ok theme => return .ofDefinition theme
    | .error fault => throw (.json fault)

/-- Adds the grammar of a file, and gives its scope name. -/
def addGrammar (registry : Registry engine) (file : FileText) :
    Except GrammarError (String × Registry engine) := do
  match GrammarDef.ofJson (← fileText file) with
  | .error fault => throw (.json fault)
  | .ok grammar => return (grammar.scopeName, ← registry.add grammar)

/-- Adds the grammars of files, and gives their scope names. -/
def addGrammars (registry : Registry engine) :
    List FileText → Except GrammarError (List String × Registry engine)
  | [] => return ([], registry)
  | file :: files => do
    let (scope, registry) ← addGrammar registry file
    let (scopes, registry) ← addGrammars registry files
    return (scope :: scopes, registry)

/-- The lines that are printed for a request, with some engine for patterns. -/
def printed (engine : Engine) (request : Request) : Except GrammarError (List String) := do
  let theme ← themeOf request.theme
  let (scopes, registry) ← addGrammars ({ theme } : Registry engine) request.grammars
  let scope := (request.scope.or scopes.head?).getD ""
  let (tokenizer, registry) ← registry.load scope
  let text ← fileText request.input
  printLines request.styled registry.library tokenizer none 0
    (linesOf (dropReturns text.toList))

/-- Answers a request, with the library's own engine. -/
def run (request : Request) : Output :=
  match printed Regex.engine request with
  | .ok lines => ⟨0, lines, ""⟩
  | .error error => ⟨1, [], errorText error⟩

end ScopeTokenizer.CommandLine
