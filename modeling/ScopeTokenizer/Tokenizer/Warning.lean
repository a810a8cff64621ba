import ScopeTokenizer.Grammar.Candidates
import ScopeTokenizer.Grammar.Error

/-!
# Warnings

Reading a line never fails. What is wrong with a grammar and shows only then is worked
around, and said.
-/

namespace ScopeTokenizer

open Grammar

/-- Something that was worked around. -/
inductive Warning where
  /-- A pattern cannot be compiled. -/
  | invalidPattern (target : Target)
  /-- So many patterns cannot be searched together. -/
  | incompatiblePatterns (count : Nat)
  /-- The selector of an injection cannot be read. -/
  | unreadableInjection (grammar : String) (error : GrammarError)
  /-- The rule of an injection cannot be compiled. -/
  | brokenInjection (selector grammar : String) (error : GrammarError)
  /-- A grammar that is to be injected is not known. -/
  | missingInjector (injector grammar : String)
  /-- A rule was found that has no pattern. -/
  | patternless (rule : RuleId)

/-- What is said. -/
def Warning.message : Warning → String
  | invalidPattern target =>
    let number := target.number
    s!"Invalid regex for rule {number}, it will never match"
  | incompatiblePatterns count => s!"Failed to compile pattern set of {count} patterns"
  | unreadableInjection grammar error =>
    let text := error.message
    s!"Skipping injection in {grammar}: {text}"
  | brokenInjection selector grammar error =>
    let text := error.message
    s!"Skipping injection `{selector}` in {grammar}: {text}"
  | missingInjector injector grammar =>
    s!"Grammar {injector} injected into {grammar} could not be found"
  | patternless rule => s!"Matched rule {rule} which has no regex"

end ScopeTokenizer
