import QuerySql.Compile.Statement
import QuerySql.Json.Printer

/-!
# Calls for a host program

The two calls that a program in another language makes: text in, text out. The depth of nesting
has its default limit.
-/

namespace QuerySql.Embedding

/-- The options of a call. -/
def options (withUnion sanitize : Bool) : Options :=
  { withUnion, withSanitizedInjection := sanitize }

/-- SQL with every literal written in. -/
def build (document : String) (withUnion sanitize : Bool) : Except Error String :=
  Compile.Compilation.result ((options withUnion sanitize).buildDocument document)

/-- A statement and its parameters as a JSON object. -/
def generate (document : String) (withUnion sanitize : Bool) : Except Error String :=
  (Compile.Compilation.result ((options withUnion sanitize).generateDocument document)).map
    fun statement => statement.toJson.text

end QuerySql.Embedding
