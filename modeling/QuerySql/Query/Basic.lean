import QuerySql.Json.Basic

/-!
# Query descriptors

What one SQL statement is to say, as a tree: the table, the selected items, joins, filters,
grouping, order and bounds. Queries nest: a selected item, the value of a comparison and the
result of a `CASE` branch can each be a query of their own.

Operators and datatypes are kept as they were spelled. Values that are not queries stay JSON.
-/

namespace QuerySql

/-- The word that ties a condition to the one before it. -/
inductive Operand where
  | and
  | or
  deriving DecidableEq, Repr

/-- The SQL word. -/
def Operand.keyword : Operand → String
  | .and => "AND"
  | .or => "OR"

/-- A kind of join. -/
inductive JoinKind where
  | plain
  | inner
  | left
  | right
  deriving DecidableEq, Repr

/-- The SQL words. -/
def JoinKind.keyword : JoinKind → String
  | .plain => "JOIN"
  | .inner => "INNER JOIN"
  | .left => "LEFT JOIN"
  | .right => "RIGHT JOIN"

/-- A direction of sorting. -/
inductive Direction where
  | ascending
  | descending
  deriving DecidableEq, Repr

/-- The SQL word. -/
def Direction.keyword : Direction → String
  | .ascending => "ASC"
  | .descending => "DESC"

/-- A limit or an offset. -/
inductive RowBound where
  /-- A bare number, always written into the SQL text. -/
  | bare (rows : Nat)
  /-- A number with a flag: it is bound as a parameter unless it is static. -/
  | flagged (rows : Nat) (isStatic : Bool)
  deriving DecidableEq, Repr

/-- A call of an SQL function. -/
structure FunctionCall where
  name : String
  /-- The parameters name columns; otherwise they are literal values. -/
  isField : Bool
  params : List Json

/-- The left-hand side of a comparison. -/
inductive Clause where
  | column (name : String)
  | call (function : FunctionCall)

/-- A join of one table; each pair of columns becomes a join of its own. -/
structure Join where
  table : String
  kind : JoinKind := .plain
  on : List (String × String) := []

/-- The columns to sort by. -/
structure SortOrder where
  fields : List String := []
  direction : Option Direction := none

mutual

/-- One statement's worth of intent. -/
structure Query where
  table : String
  selection : Option (List SelectionItem) := none
  joins : Option (List Join) := none
  conditions : Option (List Condition) := none
  groupBy : Option (List String) := none
  having : Option (List Condition) := none
  orderBy : Option SortOrder := none
  limit : Option RowBound := none
  offset : Option RowBound := none

/-- An item of the select list. -/
inductive SelectionItem where
  | column (name : String)
  | detail (detail : SelectionDetail)
  | case (case : CaseExpression)

/-- A selected field, function of a field, or subquery, with an alias. -/
structure SelectionDetail where
  field : Option String := none
  aliasName : Option String := none
  subquery : Option Query := none
  function : Option FunctionCall := none

/-- A `CASE` with its branches, which are conditions with an expectation, and its default. -/
structure CaseExpression where
  branches : List Condition := []
  default : Option TypedValue := none
  aliasName : Option String := none

/-- A value outside of a comparison. Without a datatype it should be a subquery. -/
structure TypedValue where
  value : Option Value := none
  datatype : Option String := none
  isStatic : Bool := false

/-- A condition of a filter or a branch of a `CASE`. -/
inductive Condition where
  /-- A group of conditions between parentheses. -/
  | group (operand : Option Operand) (members : List Condition)
  | comparison (operand : Option Operand) (comparison : Comparison)

/-- A comparison. With an expectation it is the branch `WHEN … THEN …` of a `CASE`. -/
structure Comparison where
  clause : Option Clause := none
  operator : String := ""
  datatype : Option String := none
  isStatic : Bool := false
  value : Option Value := none
  expectation : Option TypedValue := none

/-- The value of a comparison or of a typed value. -/
inductive Value where
  | literal (scalar : Json)
  | range (lower upper : Option Json)
  | array (items : List Json)
  | call (function : FunctionCall)
  | subquery (query : Query)
  /-- An object of no known shape, which compiles to nothing. -/
  | unsupported (object : Json)

end

end QuerySql
