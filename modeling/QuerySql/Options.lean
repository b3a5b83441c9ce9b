/-!
# Options of a compilation
-/

namespace QuerySql

/-- Settings of a whole compilation, subqueries and members of a union included. -/
structure Options where
  /-- The document is an array of queries that form a union. -/
  withUnion : Bool := false
  /-- Statements that contain something forbidden are rejected. -/
  withSanitizedInjection : Bool := false
  /-- How deep subqueries and groups may nest. -/
  maxDepth : Nat := 32
  deriving DecidableEq, Repr

end QuerySql
