import ScopeTokenizer.Text.Quoted
import ScopeTokenizer.Tokenizer.Basic

/-!
# Descriptions of tokenizers

A tokenizer spelled out for people: which grammar it is of, and how much was compiled.
-/

namespace ScopeTokenizer.Tokenizer

open Text

variable {engine : Pattern.Engine}

/-- The rules of a tokenizer, described by their number and by the other grammars they come
from. -/
def describeRules (tokenizer : Tokenizer engine) : String :=
  let name := quote tokenizer.scopeName
  let rules := tokenizer.compilation.table.size
  let included := quoteList tokenizer.compilation.included.keys
  s!"RuleRegistry \x7b grammar: {name}, rules: {rules}, included_grammars: {included} \x7d"

/-- A tokenizer, described by its grammar and its rules. -/
def describe (tokenizer : Tokenizer engine) : String :=
  let name := quote tokenizer.scopeName
  let root := tokenizer.root
  let rules := tokenizer.describeRules
  s!"Grammar \x7b scope_name: {name}, root_id: RuleId({root}), registry: RwLock \x7b data: {rules}, poisoned: false, .. \x7d, .. \x7d"

end ScopeTokenizer.Tokenizer
