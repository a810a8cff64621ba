import ScopeTokenizer.Main
import ScopeTokenizer.Nesting.Describe
import ScopeTokenizer.Tokenizer.Describe
import ScopeTokenizer.Proofs.Reading.Following
import ScopeTokenizer.Proofs.Grammar.Growth
import ScopeTokenizer.Proofs.Reading.Simulation
import ScopeTokenizer.Proofs.Reading.Parallel
import ScopeTokenizer.Proofs.Reading.Answers
import ScopeTokenizer.Proofs.Tokens.Partition
import ScopeTokenizer.Proofs.Grammar.Compiling
import ScopeTokenizer.Proofs.Tokenizer.Caching
import ScopeTokenizer.Proofs.Tokenizer.Kinship
import ScopeTokenizer.Proofs.Tokenizer.Session
import ScopeTokenizer.Proofs.Tokenizer.Resumption
import ScopeTokenizer.Proofs.Tokens.Compression
import ScopeTokenizer.Proofs.Reading.Ensuring
import ScopeTokenizer.Proofs.Tokenizer.Restraint
import ScopeTokenizer.Proofs.Tokenizer.Ending
import ScopeTokenizer.Proofs.Reading.Turning
import ScopeTokenizer.Proofs.Tokenizer.Nestings
import ScopeTokenizer.Proofs.Tokenizer.Moments
import ScopeTokenizer.Proofs.Tokenizer.Collecting
import ScopeTokenizer.Proofs.Tokenizer.Selection
import ScopeTokenizer.Proofs.Tokenizer.Histories
import ScopeTokenizer.Proofs.Tokenizer.Restyling
import ScopeTokenizer.Proofs.Tokenizer.Conditions
import ScopeTokenizer.Proofs.Grammar.Places
import ScopeTokenizer.Proofs.Grammar.Rendering
import ScopeTokenizer.Proofs.Grammar.Underway
import ScopeTokenizer.Proofs.Grammar.Faithfulness
import ScopeTokenizer.Proofs.Grammar.Scoping
import ScopeTokenizer.Proofs.Grammar.Ways
import ScopeTokenizer.Proofs.Grammar.Hosting
import ScopeTokenizer.Proofs.Tokenizer.Bases
import ScopeTokenizer.Proofs.Json.Giving
import ScopeTokenizer.Proofs.Grammar.Definitions
import ScopeTokenizer.Proofs.Theme.Scanning
import ScopeTokenizer.Proofs.Tokenizer.Offers
import ScopeTokenizer.Proofs.Tokenizer.Closings
import ScopeTokenizer.Proofs.Grammar.Changes
import ScopeTokenizer.Proofs.Registry.Replacing
import ScopeTokenizer.Proofs.Selector.Pieces
import ScopeTokenizer.Proofs.Selector.Syntax
import ScopeTokenizer.Proofs.Selector.Acceptance
import ScopeTokenizer.Proofs.Tokens.Labels
import ScopeTokenizer.Proofs.Reading.Capturing
import ScopeTokenizer.Proofs.Reading.Settling
import ScopeTokenizer.Proofs.Registry.Snapshots
import ScopeTokenizer.Proofs.Grammar.Parts
import ScopeTokenizer.Proofs.Grammar.Reordering
import ScopeTokenizer.Proofs.Grammar.Retracing
import ScopeTokenizer.Proofs.Grammar.Orders
import ScopeTokenizer.Proofs.Grammar.Flattening
import ScopeTokenizer.Proofs.Pattern.Resolving
import ScopeTokenizer.Proofs.Pattern.Omission
import ScopeTokenizer.Proofs.Pattern.Signs
import ScopeTokenizer.Proofs.Selector.Embedding
import ScopeTokenizer.Proofs.Theme.Specificity
import ScopeTokenizer.Proofs.Theme.Painting
import ScopeTokenizer.Proofs.Tokenizer.Refusals
import ScopeTokenizer.Proofs.Theme.Arrangement
import ScopeTokenizer.Proofs.Tokenizer.Entering
import ScopeTokenizer.Proofs.Registry.Calls
import ScopeTokenizer.Proofs.Grammar.Ownership
import ScopeTokenizer.Proofs.Reading.Watching
import ScopeTokenizer.Proofs.Tokenizer.Targets
import ScopeTokenizer.Proofs.Tokenizer.Succeeding
import ScopeTokenizer.Proofs.Tokenizer.Presence
import ScopeTokenizer.Proofs.Style.Patching
import ScopeTokenizer.Proofs.Text.Offsets
import ScopeTokenizer.Proofs.Regex.Leads
import ScopeTokenizer.Proofs.Regex.Beginnings
import ScopeTokenizer.Proofs.Regex.Disabling
import ScopeTokenizer.Proofs.Regex.Tracking
import ScopeTokenizer.Proofs.Reading.Expecting
import ScopeTokenizer.Proofs.Tokenizer.Provenance
import ScopeTokenizer.Proofs.Tokenizer.Placeholders
import ScopeTokenizer.Proofs.Scope.Filling
import ScopeTokenizer.Proofs.Style.Numbering
