import ScopeTokenizer.Grammar.Candidates
import ScopeTokenizer.Grammar.Compile
import ScopeTokenizer.Nesting.Basic
import ScopeTokenizer.Pattern.Set
import ScopeTokenizer.Style.Styler
import ScopeTokenizer.Tokenizer.Warning

/-!
# Tokenizers

A tokenizer is a grammar that is ready to read lines. What it needs beyond the compiled
rules is made when it is first needed and kept from then on: the injections, a pattern set for
each rule and each choice of anchors, and the styles of scopes.
-/

namespace ScopeTokenizer

open Grammar Pattern Style Text

/-- A rule that is tried wherever its selector holds. -/
structure Injection where
  matcher : Selector.Matcher
  priority : Selector.Priority
  rule : RuleId
  /-- The grammar that it comes from. -/
  grammar : String

/-- What a pattern set is for. -/
structure ScannerKey where
  rule : RuleId
  anchors : Anchors
  /-- It looks for the condition of a region of lines. -/
  condition : Bool
  deriving DecidableEq, Repr

/-- A pattern set for a search. -/
abbrev Scanner (engine : Engine) := PatternSet engine Target

/-- A compiled grammar with what was made while reading lines. -/
structure Tokenizer (engine : Engine) where
  root : RuleId
  compilation : Compilation
  styler : Styler
  /-- Those that go first come first. Nothing is known about them before they are needed. -/
  injections : Option (List Injection) := none
  /-- The scanners that only depend on the grammar. -/
  scanners : List (ScannerKey × Scanner engine) := []
  /-- For each purpose the last scanner with a pattern that captured text was filled into. -/
  filledScanners : List (ScannerKey × String × Scanner engine) := []
  /-- The styles of scopes under the theme. -/
  styles : List (String × ScopeStyle) := []

namespace Tokenizer

variable {engine : Engine}

/-- Compiles a grammar, with the others of a library to include from. -/
def ofGrammar (engine : Engine) (grammar : GrammarDef) (library : Library)
    (languages : Languages) (theme : Theme) : Except GrammarError (Tokenizer engine) :=
  if grammar.scopeName.isEmpty then .error .missingScopeName
  else match (Compilation.start grammar).compileRoot library with
    | (.error error, _) => .error error
    | (.ok root, compilation) => .ok { root, compilation, styler := ⟨languages, theme⟩ }

/-- The scope name of the grammar. -/
def scopeName (tokenizer : Tokenizer engine) : String := tokenizer.compilation.host.scopeName

/-- The rule with a number. -/
def rule? (tokenizer : Tokenizer engine) (id : RuleId) : Option Rule :=
  tokenizer.compilation.table.rule? id

/-! ## Styles -/

/-- Goes on with another theme, without anything that was made for the one before it. -/
def withTheme (tokenizer : Tokenizer engine) (theme : Theme) : Tokenizer engine :=
  { tokenizer with styler := { tokenizer.styler with theme }, styles := [] }

/-- The style of a scope. -/
def styleOf (tokenizer : Tokenizer engine) (scope : String) : ScopeStyle × Tokenizer engine :=
  match tokenizer.styles.lookup scope with
  | some style => (style, tokenizer)
  | none =>
    let style := tokenizer.styler.styleOf scope
    (style, { tokenizer with styles := (scope, style) :: tokenizer.styles })

/-- Goes one scope further in. -/
def enter (tokenizer : Tokenizer engine) (path : ScopePath) (scope : String) :
    ScopePath × Tokenizer engine :=
  let (style, tokenizer) := tokenizer.styleOf scope
  (.push path scope (style.mergeInto path.metadata (some path)), tokenizer)

/-- Goes further in by some scopes, the outermost one first. -/
def enterEach (tokenizer : Tokenizer engine) (path : ScopePath) :
    List String → ScopePath × Tokenizer engine
  | [] => (path, tokenizer)
  | scope :: scopes =>
    let (path, tokenizer) := tokenizer.enter path scope
    tokenizer.enterEach path scopes

/-- Goes further in by the scopes of a text, if there is one. -/
def enterAll (tokenizer : Tokenizer engine) (path : ScopePath) :
    Option String → ScopePath × Tokenizer engine × List Warning
  | none => (path, tokenizer, [])
  | some scopes =>
    let (path, tokenizer) := tokenizer.enterEach path (ScopePath.scopesOf scopes)
    (path, tokenizer, [])

/-- The nesting at the start of a text. -/
def initial (tokenizer : Tokenizer engine) : Nesting :=
  let outside := tokenizer.styler.defaultStyle.mergeInto .unset none
  let (style, _) := tokenizer.styleOf tokenizer.scopeName
  let scopes := .root tokenizer.scopeName (style.mergeInto outside none)
  .root { rule := tokenizer.root, nameScopes := scopes, contentScopes := scopes }

/-! ## Injections -/

/-- The injections collected so far, in the order in which they were found. -/
structure Collection where
  compilation : Compilation
  injections : List Injection := []
  warnings : List Warning := []

namespace Collection

/-- Adds a warning. -/
def warn (collection : Collection) (warning : Warning) : Collection :=
  { collection with warnings := collection.warnings ++ [warning] }

/-- Adds a rule that some grammar injects: an injection for each part of its selector. -/
def add (collection : Collection) (library : Library) (grammar : LinkedGrammar)
    (selector : String) (node : Node) : Collection :=
  match Selector.ofText selector with
  | .error fault =>
    collection.warn (.unreadableInjection grammar.scopeName (.selector selector fault))
  | .ok [] => collection
  | .ok parts =>
    match collection.compilation.compileRule library grammar.surroundings node with
    | (.error error, compilation) =>
      { collection with compilation }.warn (.brokenInjection selector grammar.scopeName error)
    | (.ok rule, compilation) =>
      { collection with
        compilation
        injections := collection.injections ++
          parts.map fun part => ⟨part.matcher, part.priority, rule, grammar.scopeName⟩ }

/-- Adds a grammar that asks to be injected, unless it does not say where. -/
def addInjector (collection : Collection) (library : Library) (injector : String) :
    Collection :=
  let host := collection.compilation.host
  match collection.compilation.run library (Compile.grammar? injector host.base?) with
  | (.ok (some grammar), compilation) =>
    let collection := { collection with compilation }
    match grammar.injectionSelector, grammar.self? with
    | some selector, some node => collection.add library grammar selector node
    | _, _ => collection
  | (_, compilation) =>
    { collection with compilation }.warn (.missingInjector injector host.scopeName)

/-- Collects the injections of a grammar: its own ones, and those of other grammars. -/
def ofCompilation (compilation : Compilation) (library : Library) : Collection :=
  let host := compilation.host
  let own := host.injections.foldl
    (fun collection (selector, node) => collection.add library host selector node)
    ({ compilation } : Collection)
  (library.injectorsOf host.scopeName).foldl
    (fun collection injector => collection.addInjector library injector) own

/-- The injections by their priorities, and otherwise in the order in which they were
found. -/
def sorted (collection : Collection) : List Injection :=
  collection.injections.mergeSort fun first second => first.priority.rank ≤ second.priority.rank

end Collection

/-- The injections, with the tokenizer that has collected them. -/
def collected (tokenizer : Tokenizer engine) (library : Library) :
    List Injection × Tokenizer engine × List Warning :=
  match tokenizer.injections with
  | some injections => (injections, tokenizer, [])
  | none =>
    let collection := Collection.ofCompilation tokenizer.compilation library
    let injections := collection.sorted
    (injections,
      { tokenizer with compilation := collection.compilation, injections := some injections },
      collection.warnings)

/-! ## Scanners -/

/-- What is said about the problems of a scanner. -/
def warningOf : SetProblem Target → Warning
  | .invalid target => .invalidPattern target
  | .incompatible count => .incompatiblePatterns count

/-- Builds a scanner. -/
def build (engine : Engine) (patterns : List (Target × String)) :
    Scanner engine × List Warning :=
  let (scanner, problems) := PatternSet.ofList patterns
  (scanner, problems.map warningOf)

/-- The scanner of a key, if it was built before. One with a pattern that captured text was
filled into is known only until the next one with its key. -/
def known? (tokenizer : Tokenizer engine) (key : ScannerKey) (filled : Option String) :
    Option (Scanner engine) :=
  match filled with
  | none => tokenizer.scanners.lookup key
  | some pattern =>
    match tokenizer.filledScanners.lookup key with
    | some (other, scanner) => if other = pattern then some scanner else none
    | none => none

/-- Keeps a scanner. -/
def keep (tokenizer : Tokenizer engine) (key : ScannerKey) (filled : Option String)
    (scanner : Scanner engine) : Tokenizer engine :=
  match filled with
  | none => { tokenizer with scanners := (key, scanner) :: tokenizer.scanners }
  | some pattern =>
    let others := tokenizer.filledScanners.filter fun entry => entry.1 ≠ key
    { tokenizer with filledScanners := (key, pattern, scanner) :: others }

/-- The scanner of a key, built from its patterns if it is not known. -/
def scanner (tokenizer : Tokenizer engine) (key : ScannerKey) (filled : Option String)
    (patterns : Unit → List (Target × String)) :
    Scanner engine × Tokenizer engine × List Warning :=
  match tokenizer.known? key filled with
  | some scanner => (scanner, tokenizer, [])
  | none =>
    let (scanner, warnings) := build engine (patterns ())
    (scanner, tokenizer.keep key filled scanner, warnings)

/-- The text of a pattern, or the one that captured text was filled into, where the given
anchors may match. -/
def patternText (source : Source) (filled : Option String) (anchors : Anchors) : String :=
  match filled with
  | some pattern => anchors.resolve pattern
  | none => source.resolveAnchors anchors

/-- The patterns of the rules that are tried inside a rule of a table. -/
def innerPatterns (table : RuleTable) (rule : Rule) (anchors : Anchors) :
    List (Target × String) :=
  (table.candidates rule.id anchors).map fun (id, text) => (.rule id, text)

/-- The patterns of a search inside a rule of a table. In a region, the one that closes it is
among them. -/
def patternsOf (table : RuleTable) (rule : Rule) (filled : Option String)
    (anchors : Anchors) : List (Target × String) :=
  let inner := innerPatterns table rule anchors
  match rule.kind with
  | .region _ _ closing last _ =>
    let closing := (Target.closing, patternText closing.pattern filled anchors)
    if last then inner ++ [closing] else closing :: inner
  | _ => inner

/-- The text that is filled into a pattern. Only the one that closes a region can have it. -/
def fillable (rule : Rule) (filled : Option String) : Option String :=
  match rule.kind with
  | .region _ _ _ _ _ => filled
  | _ => none

/-- The scanner for a search inside a rule. -/
def ruleScanner (tokenizer : Tokenizer engine) (rule : Rule) (filled : Option String)
    (anchors : Anchors) : Scanner engine × Tokenizer engine × List Warning :=
  let filled := fillable rule filled
  tokenizer.scanner ⟨rule.id, anchors, false⟩ filled fun _ =>
    patternsOf tokenizer.compilation.table rule filled anchors

/-- The pattern of the condition of a region of lines, which is searched for alone. -/
def conditionPatterns (condition : Source) (filled : Option String) (anchors : Anchors) :
    List (Target × String) :=
  [(.condition, patternText condition filled anchors)]

/-- The scanner for the condition of a region of lines. -/
def conditionScanner (tokenizer : Tokenizer engine) (rule : RuleId) (condition : Source)
    (filled : Option String) (anchors : Anchors) :
    Scanner engine × Tokenizer engine × List Warning :=
  tokenizer.scanner ⟨rule, anchors, true⟩ filled fun _ =>
    conditionPatterns condition filled anchors

end Tokenizer

end ScopeTokenizer
