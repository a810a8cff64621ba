import ScopeTokenizer.CommandLine

/-!
# The program

Reads the files that the arguments name, and prints what the command line answers.
-/

namespace ScopeTokenizer.Main

open CommandLine

/-- The text of a file. -/
def readText (name : String) : IO FileText := do
  match ← (IO.FS.readBinFile name).toBaseIO with
  | .ok bytes => return textOfBytes bytes
  | .error _ => return .error .missing

/-- Reads the files that are asked for. -/
def readFiles (arguments : Arguments) : IO Request :=
  return {
    input := ← readText arguments.input
    grammars := ← arguments.grammars.mapM readText
    scope := arguments.scope
    theme := ← arguments.theme.mapM readText
    styled := arguments.styled }

/-- What is said when the arguments cannot be read. -/
def usage : String :=
  "usage: INPUT --grammar FILE [--grammar FILE]... [--scope SCOPE] [--theme FILE] [--binary]"

end ScopeTokenizer.Main

open ScopeTokenizer ScopeTokenizer.Main in
/-- Prints the tokens of a file. -/
def main (arguments : List String) : IO UInt32 := do
  match CommandLine.Arguments.read {} arguments with
  | none =>
    IO.eprintln usage
    return 2
  | some arguments =>
    let output := CommandLine.run (← readFiles arguments)
    output.lines.forM IO.println
    IO.eprint output.errors
    return .ofNat output.code
