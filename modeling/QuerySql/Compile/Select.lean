import QuerySql.Query.Basic
import QuerySql.Sql.Spacing

/-!
# Select statements

The clauses of one statement, each compiled on its own, and their assembly into text.

* `Select.text` is the statement.
-/

namespace QuerySql

/-- The clauses of a statement. Literals in them may still be marked. -/
structure Select where
  table : String
  /-- The selected columns; none stand for all. -/
  columns : List String := []
  joins : List String := []
  conditions : String := ""
  grouping : List String := []
  having : String := ""
  sorting : Option SortOrder := none
  limit : Option String := none
  offset : Option String := none

namespace Compile

/-- The text after the word, if the word ends there. -/
def afterOperand? (operand : Operand) (cs : List Char) : Option (List Char) :=
  let word := operand.keyword.toList
  let rest := cs.drop word.length
  if word.isPrefixOf cs && rest.head?.all Text.isBlank then some rest else none

/-- The conditions without an operand before the first of them. -/
def withoutLeadingOperand (conditions : String) : String :=
  let cs := Text.trimStart conditions.toList
  let rest := ((afterOperand? .and cs).or (afterOperand? .or cs)).map Text.trimStart
  String.ofList (rest.getD cs)

/-- A filter clause, or nothing without conditions. -/
def filterClause (keyword conditions : String) : String :=
  let conditions := withoutLeadingOperand conditions
  if Text.isBlankText conditions then "" else keyword ++ " " ++ conditions

/-- An expression with an alias. -/
def aliased (expression : String) : Option String → String
  | some name => expression ++ " AS " ++ name
  | none => expression

/-- The texts that are not empty, with a separator between them. -/
def joinNonempty (separator : String) (texts : List String) : String :=
  separator.intercalate (texts.filter fun s => !s.isEmpty)

/-- One join for each pair of columns, in document order. -/
def joinTexts (join : Join) : List String :=
  join.on.map fun (left, right) =>
    join.kind.keyword ++ " " ++ join.table ++ " ON " ++ left ++ " = " ++ right

/-- The order clause, or nothing without fields. -/
def orderClause : Option SortOrder → String
  | none => ""
  | some order =>
    if order.fields.isEmpty then ""
    else
      let fields := "ORDER BY " ++ ", ".intercalate order.fields
      match order.direction with
      | some direction => fields ++ " " ++ direction.keyword
      | none => fields

/-- A keyword with its argument, or nothing without one. -/
def optionalClause (keyword : String) : Option String → String
  | some text => keyword ++ " " ++ text
  | none => ""

end Compile

open Compile in
/-- The clauses in their order, before spacing. -/
def Select.clauses (s : Select) : List String :=
  let columns := if s.columns.isEmpty then "*" else joinNonempty ", " s.columns
  [ "SELECT " ++ columns ++ " FROM " ++ s.table,
    " ".intercalate s.joins,
    filterClause "WHERE" s.conditions,
    if s.grouping.isEmpty then "" else "GROUP BY " ++ ", ".intercalate s.grouping,
    filterClause "HAVING" s.having,
    orderClause s.sorting,
    optionalClause "LIMIT" s.limit,
    optionalClause "OFFSET" s.offset ]

/-- The statement. -/
def Select.text (s : Select) : String :=
  Sql.normalizeSpacing (Compile.joinNonempty " " s.clauses)

end QuerySql
