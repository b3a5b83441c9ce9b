import QuerySql.CommandLine.Arguments
import QuerySql.Compile.Statement
import QuerySql.Options.Config
import QuerySql.Validation

/-!
# Running a command

A command first settles its options, from the configuration file and the command line, and then
compiles its document. Everything here is a function of the texts that were read; reading them is
left to the caller.

* `Request.options`, `Request.output` are the two steps.
* `run` is a whole run over given files and standard input.
-/

namespace QuerySql.CommandLine

/-- Why a file cannot be read. -/
inductive FileError where
  | notFound
  | other (message : String)

/-- The text of the error. -/
def FileError.message : FileError → String
  | .notFound => "No such file or directory (os error 2)"
  | .other message => message

/-- Why a command fails. -/
inductive Failure where
  /-- The arguments are wrong. -/
  | usage
  | unreadableConfig (error : FileError)
  /-- The configuration file is not TOML or has an option of the wrong kind. -/
  | invalidConfig
  | compilation (error : Error)

/-- The text of the failure. -/
def Failure.message : Failure → String
  | .usage => "usage: compile [DOCUMENT] [--union] [--sanitize] [--params] [--strict] " ++
      "[--max-depth DEPTH] [--config PATH]"
  | .unreadableConfig e => e.message
  | .invalidConfig => "the configuration file is not valid"
  | .compilation e => e.message

/-- The status with which the command ends. -/
def Failure.exitCode : Failure → Nat
  | .usage => 2
  | _ => 1

namespace Request

/-- The options of a command, over those of its configuration file. -/
def withConfig (r : Request) (base : Options) : Options :=
  { withUnion := base.withUnion || r.withUnion
    withSanitizedInjection := base.withSanitizedInjection || r.sanitize
    maxDepth := r.maxDepth.getD base.maxDepth }

/-- The options of a command, given the outcome of reading its configuration file. -/
def options (r : Request) (config : Option (Except FileError String)) : Except Failure Options :=
  match config with
  | none => .ok (r.withConfig {})
  | some (.error e) => .error (.unreadableConfig e)
  | some (.ok text) =>
    match Options.ofConfig? text with
    | some base => .ok (r.withConfig base)
    | none => .error .invalidConfig

/-- The queries that a document describes. -/
def queries (options : Options) (document : String) : Except Error (List Query) :=
  if options.withUnion then (Query.parseUnion document).mapError .decode
  else ((Query.parse document).map fun q => [q]).mapError .decode

/-- Refuses unknown operators and datatypes in a document. -/
def checkVocabulary (options : Options) (document : String) : Except Error Unit := do
  (← queries options document).forM fun q => q.validate.mapError .vocabulary

/-- What a command prints for a document. -/
def compile (r : Request) (options : Options) (document : String) : Except Error String := do
  if r.strict then checkVocabulary options document
  if r.params then
    let statement ← Compile.Compilation.result (options.generateDocument document)
    let values := Json.arr (statement.params.map BindValue.toJson)
    return statement.sql ++ "\n" ++ values.text ++ "\n"
  else
    return (← Compile.Compilation.result (options.buildDocument document)) ++ "\n"

/-- What a command prints for a document, or its failure. -/
def output (r : Request) (options : Options) (document : String) : Except Failure String :=
  (r.compile options document).mapError .compilation

end Request

/-- A whole run: the printed text or the failure, given the files and the standard input. -/
def run (arguments : List String) (file : String → Except FileError String) (input : String) :
    Except Failure String := do
  match Request.parse? arguments with
  | none => throw .usage
  | some r =>
    let options ← r.options (r.config.map file)
    r.output options (r.document.getD input)

end QuerySql.CommandLine
