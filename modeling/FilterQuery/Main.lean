import FilterQuery.CommandLine

/-!
  FilterQuery.Main

  The program: it reads the configuration file, and writes what `CommandLine.run` says.
-/

namespace FilterQuery

/-- The content of a file as text, if there is such a file and it is text. -/
def contentOf? (path : Text) : IO (Option Text) := do
  try
    let bytes ← IO.FS.readBinFile (String.ofList path)
    return Config.textOfBytes? bytes
  catch _ => return none

/-- How the program is called. -/
def usage : String :=
  "Usage: filter-query --config <CONFIG> [--order-by <NAME>] [--limit <NAME>] [--offset <NAME>] " ++
    "[--pretty] <QUERY>"

end FilterQuery

open FilterQuery in
/-- Runs the command line. -/
def main (arguments : List String) : IO UInt32 := do
  match CommandLine.ofArguments? (arguments.map String.toList) with
  | none =>
    IO.eprintln usage
    return 2
  | some command =>
    let content ← contentOf? command.config
    let outcome := command.run content
    IO.print (String.ofList outcome.output)
    IO.eprint (String.ofList outcome.errors)
    return outcome.exitCode
