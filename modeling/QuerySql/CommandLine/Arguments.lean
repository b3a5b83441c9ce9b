import QuerySql.Sql.BindValue

/-!
# Arguments of the command line

The one command is `compile`, with an optional document and options in any order. Options have a
long name and some a short one; short ones can share a dash. A value follows its option as the next
argument or after an equals sign, after a short option also directly. No option is given twice, and
what follows two dashes is no option.

* `Request.parse?` reads the arguments of a compile request; `none` is a wrong use. Requests for
  help or for the version compile nothing and are not among them.
-/

namespace QuerySql.CommandLine

/-- What the command line asks for. -/
structure Request where
  /-- The document; without it the standard input is read. -/
  document : Option String := none
  withUnion : Bool := false
  sanitize : Bool := false
  /-- Print placeholders and a line with the values. -/
  params : Bool := false
  /-- Refuse unknown operators and datatypes. -/
  strict : Bool := false
  maxDepth : Option Nat := none
  /-- The path of a configuration file. -/
  config : Option String := none
  deriving DecidableEq, Repr

/-- An option of the command. -/
inductive Switch where
  | union
  | sanitize
  | params
  | strict
  | maxDepth
  | config
  deriving DecidableEq, Repr

/-- The option with a long name. -/
def Switch.ofName? (name : List Char) : Option Switch :=
  [("union", Switch.union), ("sanitize", .sanitize), ("params", .params), ("strict", .strict),
    ("max-depth", .maxDepth), ("config", .config)].findSome? fun (n, s) =>
      if n.toList = name then some s else none

/-- The option with a short name. -/
def Switch.ofLetter? : Char → Option Switch
  | 'u' => some .union
  | 's' => some .sanitize
  | 'p' => some .params
  | 'c' => some .config
  | _ => none

/-- The option has a value. -/
def Switch.takesValue : Switch → Bool
  | .maxDepth | .config => true
  | _ => false

namespace Request

/-- Turns an option without a value on, unless it is on. -/
def turnOn? (r : Request) : Switch → Option Request
  | .union => if r.withUnion then none else some { r with withUnion := true }
  | .sanitize => if r.sanitize then none else some { r with sanitize := true }
  | .params => if r.params then none else some { r with params := true }
  | .strict => if r.strict then none else some { r with strict := true }
  | .maxDepth | .config => none

/-- Sets an option with a value, unless it is set. -/
def give? (r : Request) (s : Switch) (value : List Char) : Option Request :=
  match s with
  | .maxDepth =>
    if r.maxDepth.isSome then none
    else (BindValue.unsigned? value).map fun n => { r with maxDepth := some n }
  | .config =>
    if r.config.isSome then none else some { r with config := some (String.ofList value) }
  | _ => none

/-- Takes an argument as the document, unless there is one. -/
def takeDocument? (r : Request) (argument : String) : Option Request :=
  if r.document.isSome then none else some { r with document := some argument }

/-- Takes all arguments as the document. -/
def takeDocuments? (r : Request) (arguments : List String) : Option Request :=
  arguments.foldlM takeDocument? r

/-- What short options that share a dash lead to. -/
inductive Cluster where
  /-- They are complete. -/
  | complete (request : Request)
  /-- The last one takes the next argument as its value. -/
  | awaits (request : Request) (switch : Switch)

/-- Reads short options that share a dash. -/
def cluster? (r : Request) : List Char → Option Cluster
  | [] => some (.complete r)
  | c :: rest => do
    let s ← Switch.ofLetter? c
    if s.takesValue then
      match rest with
      | [] => some (.awaits r s)
      | '=' :: value => (r.give? s value).map .complete
      | value => (r.give? s value).map .complete
    else cluster? (← r.turnOn? s) rest

/-- Reads a long option, of which a value may be part. -/
def long? (r : Request) (text : List Char) : Option Cluster := do
  let s ← Switch.ofName? (text.takeWhile (· ≠ '='))
  match text.dropWhile (· ≠ '=') with
  | [] => if s.takesValue then some (.awaits r s) else (r.turnOn? s).map .complete
  | _ :: value => if s.takesValue then (r.give? s value).map .complete else none

/-- The argument is an option rather than a value. A lone dash is a value. -/
def isOption : List Char → Bool
  | '-' :: _ :: _ => true
  | _ => false

/-- Reads arguments after those in `r`; `pending` is an option that awaits its value. -/
def arguments? (r : Request) (pending : Option Switch) : List String → Option Request
  | [] => if pending.isSome then none else some r
  | argument :: rest => do
    let cs := argument.toList
    match pending with
    | some s => if isOption cs then none else arguments? (← r.give? s cs) none rest
    | none =>
      if cs = ['-', '-'] then r.takeDocuments? rest
      else if !isOption cs then arguments? (← r.takeDocument? argument) none rest
      else
        let cluster ← match cs with
          | '-' :: '-' :: text => r.long? text
          | _ => r.cluster? (cs.drop 1)
        match cluster with
        | .complete r => arguments? r none rest
        | .awaits r s => arguments? r (some s) rest

/-- Reads a command line. -/
def parse? : List String → Option Request
  | "compile" :: rest => arguments? {} none rest
  | _ => none

end Request

end QuerySql.CommandLine
