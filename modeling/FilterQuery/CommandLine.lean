import FilterQuery.Config.File
import FilterQuery.Reader

/-!
  FilterQuery.CommandLine

  The command line: it reads one query under the configuration of a file, and writes a line for
  each param up to the first error. `CommandLine.run` is the whole of it but for files and
  streams.
-/

namespace FilterQuery

/-- What the arguments ask for. -/
structure CommandLine where
  config : Text
  orderBy : Option Text := none
  limit : Option Text := none
  offset : Option Text := none
  /-- Whether params are written for people, and not as JSON. -/
  pretty : Bool := false
  query : Text

namespace CommandLine

/-! ## Arguments -/

structure Arguments where
  config : Option Text := none
  orderBy : Option Text := none
  limit : Option Text := none
  offset : Option Text := none
  pretty : Bool := false
  query : Option Text := none

/-- A query argument, which must be the only one. -/
def Arguments.putQuery (a : Arguments) (t : Text) : Option Arguments :=
  if a.query.isSome then none else some { a with query := some t }

/-- The value of an option that is given. -/
def Arguments.putOption (a : Arguments) (option value : Text) : Option Arguments :=
  if option = "--config".toList || option = "-c".toList then
    some { a with config := some value }
  else if option = "--order-by".toList then some { a with orderBy := some value }
  else if option = "--limit".toList then some { a with limit := some value }
  else if option = "--offset".toList then some { a with offset := some value }
  else none

/-- Reads arguments after the ones that have been seen. The value of an option is its next
    argument, or follows an equals sign; after two hyphens there are no options. -/
def readArguments (a : Arguments) : List Text → Option Arguments
  | [] => some a
  | t :: rest =>
    if t = "--".toList then rest.foldlM Arguments.putQuery a
    else if t = "--pretty".toList then readArguments { a with pretty := true } rest
    else if t.head? = some '-' && 1 < t.length then
      match t.splitFirst? '=' with
      | some (option, value) => do readArguments (← a.putOption option value) rest
      | none =>
        match rest with
        | value :: rest => do readArguments (← a.putOption t value) rest
        | [] => none
    else do readArguments (← a.putQuery t) rest

def ofArguments? (arguments : List Text) : Option CommandLine := do
  let a ← readArguments {} arguments
  let config ← a.config
  let query ← a.query
  return { config, orderBy := a.orderBy, limit := a.limit, offset := a.offset,
           pretty := a.pretty, query }

/-! ## Running -/

/-- Why a run failed. -/
inductive Failure where
  | config (path : Text) (error : ConfigError)
  | query (error : QueryError)

namespace Failure

def headline : Failure → Text
  | config path _ => "loading ".toList ++ path
  | query error => error.message

def causes : Failure → List Text
  | config _ error => [error.message]
  | query error => error.causes

/-- A text whose lines after the first are indented. -/
def indented (margin t : Text) : Text :=
  ('\n' :: margin).intercalate (t.splitOn '\n')

/-- The lines of numbered causes. -/
def numbered (n : Nat) : List Text → Text
  | [] => []
  | cause :: more =>
    '\n' :: (Text.ofNat n).leftpad 5 ' ' ++ ": ".toList ++
      indented (List.replicate 7 ' ') cause ++ numbered (n + 1) more

/-- The report of a failure: its headline, and beneath it the causes, which are numbered if
    there is more than one. -/
def report (failure : Failure) : Text :=
  let beneath :=
    match failure.causes with
    | [] => []
    | [cause] =>
      "\n\nCaused by:\n    ".toList ++ indented (List.replicate 4 ' ') cause
    | causes => "\n\nCaused by:".toList ++ numbered 0 causes
  "Error: ".toList ++ failure.headline ++ beneath ++ ['\n']

end Failure

/-- What a run writes: a line for each param, and the failure that ended it, if any. -/
structure Outcome where
  lines : List Text
  failure : Option Failure

namespace Outcome

def output (outcome : Outcome) : Text :=
  outcome.lines.flatMap fun line => line ++ ['\n']

def errors (outcome : Outcome) : Text :=
  match outcome.failure with
  | none => []
  | some failure => failure.report

/-- Zero for a run that did not fail. -/
def exitCode (outcome : Outcome) : UInt32 :=
  if outcome.failure.isSome then 1 else 0

end Outcome

/-- The reserved names of a configuration, where given options replace them. -/
def reservedNames (command : CommandLine) (names : ReservedNames) : ReservedNames :=
  { names with
    orderBy := command.orderBy.getD names.orderBy
    limit := command.limit.getD names.limit
    offset := command.offset.getD names.offset }

def line (command : CommandLine) (p : Param) : Text :=
  if command.pretty then p.display else p.toJson.compact

/-- The lines of items up to the first error, and that error. -/
def outcomeOf (line : Param → Text) : List Item → Outcome
  | [] => ⟨[], none⟩
  | .error e :: _ => ⟨[], some (.query e)⟩
  | .ok p :: more =>
    let rest := outcomeOf line more
    ⟨line p :: rest.lines, rest.failure⟩

/-- Runs a command line under a configuration. -/
def runWith (command : CommandLine) (config : Config) : Outcome :=
  let reader : Reader := { reserved := command.reservedNames config.reserved }
  outcomeOf command.line (reader.items config.types (.text command.query))

/-- Runs a command line, given the content of its configuration file. -/
def run (command : CommandLine) (content : Option Text) : Outcome :=
  match Config.ofFile command.config content with
  | .error e => ⟨[], some (.config command.config e)⟩
  | .ok config => command.runWith config

end CommandLine
end FilterQuery
