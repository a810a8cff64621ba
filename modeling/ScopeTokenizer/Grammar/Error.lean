import ScopeTokenizer.Json.Reader
import ScopeTokenizer.Selector.Reader

/-!
# Errors

What can go wrong when grammars are read, compiled and looked up.
-/

namespace ScopeTokenizer

/-- Why the text of a file cannot be had. -/
inductive FileFault where
  | missing
  /-- Its bytes are not the UTF-8 encoding of a text. -/
  | notText
  deriving DecidableEq, Repr

/-- What is said about a file whose text cannot be had. -/
def FileFault.message : FileFault → String
  | missing => "No such file or directory (os error 2)"
  | notText => "stream did not contain valid UTF-8"

/-- Why a grammar cannot be used. -/
inductive GrammarError where
  | file (fault : FileFault)
  | json (fault : Json.Fault)
  | missingScopeName
  /-- An include of a grammar refers to nothing. -/
  | unresolvedInclude (text grammar : String)
  /-- The number of a capture is larger than that of any group. -/
  | captureOutOfRange (key grammar : String)
  | unknownGrammar (name : String)
  | selector (text : String) (fault : Selector.Fault)
  /-- Rules are nested deeper than there are rules. -/
  | endless

namespace GrammarError

/-- What is said about an error. -/
def message : GrammarError → String
  | file fault =>
    let text := fault.message
    s!"I/O error: {text}"
  | json _ => "JSON parsing error"
  | missingScopeName => "grammar has no scope name"
  | unresolvedInclude text grammar => s!"unresolved include '{text}' in grammar '{grammar}'"
  | captureOutOfRange key grammar =>
    s!"capture group '{key}' out of range in grammar '{grammar}'"
  | unknownGrammar name => s!"grammar '{name}' not found"
  | selector text fault =>
    let text := fault.message text
    s!"invalid selector: {text}"
  | endless => "rules are nested without end"

end GrammarError

end ScopeTokenizer
