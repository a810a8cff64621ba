import ScopeTokenizer.Pattern.Engine
import ScopeTokenizer.Regex.Basic

/-!
# The library's own engine

The backtracking matcher as an engine for pattern sets. It is one engine among others: what is said
about tokenizers holds for any engine, or for any that follows certain laws.
-/

namespace ScopeTokenizer.Regex

/-- The engine that compiles patterns to expressions and matches those by backtracking. -/
def engine : Pattern.Engine where
  Compiled := Regex
  compile? := compile?
  matchAt := matchAt

end ScopeTokenizer.Regex
