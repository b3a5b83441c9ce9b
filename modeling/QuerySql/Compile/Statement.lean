import QuerySql.Compile.Markup
import QuerySql.Options
import QuerySql.Query.Document
import QuerySql.Sql.Denylist

/-!
# Statements

The calls of a compiler, which is nothing but its options. `build` writes every literal into the
SQL text; `generate` leaves placeholders and returns the values. With the guard on, the text with
all literals written in is checked against the denylist first, so bound values are checked too.
-/

namespace QuerySql

open Compile

/-- Stops if the statement, with its literals written in, contains something forbidden. -/
def Options.guard (options : Options) (marked : String) : Compilation Unit :=
  if options.withSanitizedInjection then
    match Sql.denied? (Sql.unmark marked) with
    | some found => do
      Noted.warn (.rejected found)
      throw .injectionRejected
    | none => pure ()
  else pure ()

/-- Writes the literals of a marked statement into its text. -/
def Options.inlined (options : Options) (marked : String) : Compilation String := do
  Noted.note (.marked marked)
  options.guard marked
  let sql := Sql.unmark marked
  Noted.note (.built sql)
  return sql

/-- Takes the literals of a marked statement out of its text. -/
def Options.parameterized (options : Options) (marked : String) : Compilation Statement := do
  Noted.note (.marked marked)
  options.guard marked
  let statement := Statement.ofMarked marked
  Noted.note (.generated statement.sql statement.params.length)
  return statement

/-- A rejected statement is replaced by a fixed text. -/
def orRejectionText (c : Compilation String) : Compilation String :=
  tryCatch c fun
    | .injectionRejected => return rejectionText
    | e => throw e

/-- SQL with every literal written in. -/
def Options.build (options : Options) (query : Query) : Compilation String := do
  let marked ← markup { limit := options.maxDepth } query
  orRejectionText (options.inlined marked)

/-- SQL with placeholders, and the values bound to them. -/
def Options.generate (options : Options) (query : Query) : Compilation Statement := do
  options.parameterized (← markup { limit := options.maxDepth } query)

/-- SQL of a union with every literal written in. -/
def Options.buildUnion (options : Options) (members : List Query) : Compilation String := do
  let marked ← unionMarkup options.maxDepth members
  orRejectionText (options.inlined marked)

/-- SQL of a union with placeholders, and the values bound to them. -/
def Options.generateUnion (options : Options) (members : List Query) : Compilation Statement := do
  options.parameterized (← unionMarkup options.maxDepth members)

/-- Continues with a decoded descriptor. -/
def decoded {α : Type} (result : Except DecodeError α) : Compilation α :=
  match result with
  | .ok a => return a
  | .error e => throw (.decode e)

/-- Builds the statement that a document describes. -/
def Options.buildDocument (options : Options) (text : String) : Compilation String := do
  if options.withUnion then options.buildUnion (← decoded (Query.parseUnion text))
  else options.build (← decoded (Query.parse text))

/-- Generates the statement that a document describes. -/
def Options.generateDocument (options : Options) (text : String) : Compilation Statement := do
  if options.withUnion then options.generateUnion (← decoded (Query.parseUnion text))
  else options.generate (← decoded (Query.parse text))

/-- The outcome of a compilation. -/
def Compile.Compilation.result {α : Type} (c : Compilation α) : Except Error α :=
  (ExceptT.run c).value

/-- The notes of a compilation at the asked level and above, with their levels. -/
def Compile.Compilation.log {α : Type} (c : Compilation α) (asked : Level) :
    List (Level × String) :=
  ((ExceptT.run c).notes.filter fun n => asked.isShown n.level).map fun n => (n.level, n.message)

end QuerySql
