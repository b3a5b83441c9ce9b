import QuerySql.Compile.Literal
import QuerySql.Compile.Select
import QuerySql.Error
import QuerySql.Word64

/-!
# From queries to marked SQL

The recursion over a query. Subqueries and groups of conditions are one level deeper than what they
stand in, and the depth is limited. Every level is spaced on its own before it becomes part of the
level above.

Unknown spellings and values without a usable shape are warned about and left out; the depth is the
only reason to stop.

* `markup` is the statement of a query with its literals marked, `unionMarkup` that of a union.
-/

namespace QuerySql.Compile

open Sql

/-- A compilation: it takes notes and may stop. -/
abbrev Compilation := ExceptT Error Noted

/-- The depth of nesting of a part of a query, and its limit. -/
structure Scope where
  limit : Nat
  depth : Nat := 0

/-- One level deeper. Depths are 64-bit words and stay at the largest. -/
def Scope.nested (s : Scope) : Compilation Scope :=
  let depth := min (s.depth + 1) Word64.max
  if s.limit < depth then throw (.depthExceeded s.limit) else return { s with depth }

/-- The fragments that are not blank after the operand, if there is one. -/
def prefixed (operand : Option Operand) (fragments : List String) : String :=
  joinFragments " " ((operand.map Operand.keyword).toList ++ fragments)

/-- The left-hand side of a comparison. -/
def clauseText (isStatic : Bool) : Option Clause → Noted String
  | some (.column name) => return name
  | some (.call function) => formatCall isStatic function
  | none => return ""

/-- A branch of a `CASE`. -/
def branchText (clause expression result : String) : String :=
  "WHEN " ++ joinFragments " " [clause, expression] ++ " THEN " ++ result

/-- A `CASE` with its branches; a blank default is left out. -/
def caseText (branches default : String) : String :=
  let default := if Text.isBlankText default then "" else "ELSE " ++ default
  joinFragments " " ["CASE", branches, default, "END"]

/-- A selected field, possibly as argument of a function. Parameters of its own make the function
ignore the field, and are always written into the text. -/
def fieldText (field : Option String) : Option FunctionCall → Noted String
  | none => return field.getD ""
  | some function =>
    if function.params.isEmpty then return callText function.name (field.getD "")
    else formatCall true function

/-- A bound. -/
def boundText : RowBound → String
  | .bare rows => Nat.repr rows
  | .flagged rows isStatic => literal isStatic (Nat.repr rows)

mutual

/-- The statement of a query with its literals marked. -/
def markup (scope : Scope) : Query → Compilation String
  | { table, selection, joins, conditions, groupBy, having, orderBy, limit, offset } => do
    let columns ← selectionTexts scope selection
    let conditions ← filterText scope conditions
    let having ← filterText scope having
    return Select.text {
      table
      columns
      joins := (joins.getD []).flatMap joinTexts
      conditions
      grouping := groupBy.getD []
      having
      sorting := orderBy
      limit := limit.map boundText
      offset := offset.map boundText }

/-- The columns of a select list that may be absent. -/
def selectionTexts (scope : Scope) : Option (List SelectionItem) → Compilation (List String)
  | none => return []
  | some items => columnTexts scope items

/-- The text of conditions that may be absent. -/
def filterText (scope : Scope) : Option (List Condition) → Compilation String
  | none => return ""
  | some members => do
    return joinFragments " " (← conditionTexts scope members)

/-- The columns of a select list. -/
def columnTexts (scope : Scope) : List SelectionItem → Compilation (List String)
  | [] => return []
  | item :: rest => do
    let column ← columnText scope item
    return column :: (← columnTexts scope rest)

/-- One item of a select list. A subquery takes precedence over a field. -/
def columnText (scope : Scope) : SelectionItem → Compilation String
  | .column name => return name
  | .detail { field, aliasName, subquery, function } =>
    match subquery with
    | some query => do
      let text ← markup (← scope.nested) query
      return aliased (parenthesized text) aliasName
    | none => do
      return aliased (← fieldText field function) aliasName
  | .case { branches, default, aliasName } => do
    let branches ← conditionTexts scope branches
    let default ← defaultText scope default
    return aliased (caseText (joinFragments " " branches) default) aliasName

/-- Sibling conditions. -/
def conditionTexts (scope : Scope) : List Condition → Compilation (List String)
  | [] => return []
  | condition :: rest => do
    let text ← conditionText scope condition
    return text :: (← conditionTexts scope rest)

/-- One condition. A comparison with an expectation is a branch and has no operand. -/
def conditionText (scope : Scope) : Condition → Compilation String
  | .group operand members => do
    let texts ← conditionTexts (← scope.nested) members
    return prefixed operand [parenthesized (joinFragments " " texts)]
  | .comparison operand { clause, operator, datatype, isStatic, value, expectation } => do
    let clause ← clauseText isStatic clause
    let expression ← expressionText scope clause operator datatype isStatic value
    match expectation with
    | none => return prefixed operand [clause, expression]
    | some typed => do
      return branchText clause expression (← typedValueText scope typed)

/-- The operator of a comparison and what follows it. An unknown operator leaves nothing, an
unknown datatype the operator alone; without a datatype the value has to be a subquery. -/
def expressionText (scope : Scope) (clause operator : String) (datatype : Option String)
    (isStatic : Bool) (value : Option Value) : Compilation String :=
  match Operator.parse operator with
  | .error e => do
    Noted.warn (.absorbed e clause)
    return ""
  | .ok operator =>
    if operator.isNullary then return operator.name
    else
      match datatype.map Datatype.parse, value with
      | some (.ok datatype), value => rightHandSide operator datatype isStatic value
      | some (.error e), _ => do
        Noted.warn (.absorbed e clause)
        return operator.name
      | none, some (.subquery query) => do
        return applied operator (parenthesized (← markup (← scope.nested) query))
      | none, _ => do
        Noted.warn (.noRightHandSide clause)
        return operator.name

/-- The default of a `CASE`, which may be absent. -/
def defaultText (scope : Scope) : Option TypedValue → Compilation String
  | none => return ""
  | some typed => typedValueText scope typed

/-- A value that stands on its own: a literal of its datatype or, without one, a subquery. -/
def typedValueText (scope : Scope) : TypedValue → Compilation String
  | { value, datatype, isStatic } =>
    match datatype.map Datatype.parse, value with
    | _, none => return ""
    | some (.ok datatype), some value => formatValue datatype isStatic value
    | some (.error e), some _ => do
      Noted.warn (.absorbed e "CASE")
      return ""
    | none, some (.subquery query) => do
      return parenthesized (← markup (← scope.nested) query)
    | none, some _ => do
      Noted.warn .unresolvableTypedValue
      return ""

end

/-- The statements of several queries, each with a depth of its own. -/
def markups (limit : Nat) : List Query → Compilation (List String)
  | [] => return []
  | query :: rest => do
    let text ← markup { limit } query
    return text :: (← markups limit rest)

/-- The statement of a union. -/
def unionMarkup (limit : Nat) (members : List Query) : Compilation String :=
  if members.isEmpty then throw .emptyUnion
  else return " UNION ".intercalate (← markups limit members)

end QuerySql.Compile
