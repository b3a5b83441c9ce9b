import QuerySql.CommandLine.Run

/-!
# The command

Reads the configuration file and, without a document on the command line, the standard input;
prints the statement, or the failure to the standard error.
-/

namespace QuerySql.CommandLine

/-- Reads a file. -/
def readFile (path : String) : IO (Except FileError String) :=
  try
    return .ok (← IO.FS.readFile path)
  catch
    | .noFileOrDirectory .. => return .error .notFound
    | e => return .error (.other (toString e))

/-- Reads the standard input to its end. -/
def readInput : IO String := do
  let input ← IO.getStdin
  input.readToEnd

/-- Runs a command. -/
def execute (arguments : List String) : IO (Except Failure String) := do
  match Request.parse? arguments with
  | none => return .error .usage
  | some r =>
    let config ← r.config.mapM readFile
    match r.options config with
    | .error e => return .error e
    | .ok options =>
      let document ← match r.document with
        | some document => pure document
        | none => readInput
      return r.output options document

end QuerySql.CommandLine

/-- Ends with the status of the command. -/
def main (arguments : List String) : IO UInt32 := do
  match ← QuerySql.CommandLine.execute arguments with
  | .ok text =>
    (← IO.getStdout).putStr text
    return 0
  | .error failure =>
    (← IO.getStderr).putStrLn failure.message
    return failure.exitCode.toUInt32
