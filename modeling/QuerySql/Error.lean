import QuerySql.Query.DecodeError
import QuerySql.Vocabulary

/-!
# Errors of a compilation

* `Error.message` is the text of an error.
-/

namespace QuerySql

/-- What is returned in place of a statement that contains something forbidden. -/
def rejectionText : String := "ERROR: query rejected by the SQL injection guard"

/-- What can end a compilation. -/
inductive Error where
  /-- The text is no descriptor. -/
  | decode (error : DecodeError)
  /-- A spelling is unknown; only validation raises it. -/
  | vocabulary (error : VocabularyError)
  /-- The statement contains something forbidden. -/
  | injectionRejected
  /-- Subqueries and groups nest too deep. -/
  | depthExceeded (limit : Nat)
  /-- A union has no members. -/
  | emptyUnion

/-- The text of the error. -/
def Error.message : Error → String
  | .decode e => e.message
  | .vocabulary e => e.message
  | .injectionRejected => rejectionText
  | .depthExceeded limit => "query nesting exceeds the maximum depth of " ++ Nat.repr limit
  | .emptyUnion => "a union requires at least one query"

end QuerySql
