import QuerySql.Query.Basic
import QuerySql.Vocabulary

/-!
# Validation

Checks every operator and datatype of a query, also those of subqueries that a compilation would
pass over. The first unknown spelling is the error.

* `Query.validate` is the check.
-/

namespace QuerySql

/-- An absent datatype, or a known one. -/
def checkDatatype : Option String → Except VocabularyError Unit
  | none => .ok ()
  | some spelling => (Datatype.parse spelling).map fun _ => ()

mutual

/-- Selected items first, then conditions, then the conditions on groups. -/
def Query.validate : Query → Except VocabularyError Unit
  | { selection, conditions, having, .. } => do
    validateSelection selection
    validateFilter conditions
    validateFilter having

/-- A select list that may be absent. -/
def validateSelection : Option (List SelectionItem) → Except VocabularyError Unit
  | none => .ok ()
  | some items => validateItems items

/-- Conditions that may be absent. -/
def validateFilter : Option (List Condition) → Except VocabularyError Unit
  | none => .ok ()
  | some members => validateConditions members

/-- Selected items in order. -/
def validateItems : List SelectionItem → Except VocabularyError Unit
  | [] => .ok ()
  | item :: rest => do
    item.validate
    validateItems rest

/-- One selected item. -/
def SelectionItem.validate : SelectionItem → Except VocabularyError Unit
  | .column _ => .ok ()
  | .detail { subquery, .. } =>
    match subquery with
    | some query => query.validate
    | none => .ok ()
  | .case { branches, default, .. } => do
    validateConditions branches
    validateTyped default

/-- Conditions in order. -/
def validateConditions : List Condition → Except VocabularyError Unit
  | [] => .ok ()
  | condition :: rest => do
    condition.validate
    validateConditions rest

/-- Operator, datatype, value and expectation of a comparison, in this order. -/
def Condition.validate : Condition → Except VocabularyError Unit
  | .group _ members => validateConditions members
  | .comparison _ { operator, datatype, value, expectation, .. } => do
    let _ ← Operator.parse operator
    checkDatatype datatype
    validateValue value
    validateTyped expectation

/-- A typed value that may be absent. -/
def validateTyped : Option TypedValue → Except VocabularyError Unit
  | none => .ok ()
  | some typed => typed.validate

/-- The datatype, then the value. -/
def TypedValue.validate : TypedValue → Except VocabularyError Unit
  | { value, datatype, .. } => do
    checkDatatype datatype
    validateValue value

/-- A value that may be absent. Only a subquery has something to check. -/
def validateValue : Option Value → Except VocabularyError Unit
  | some (.subquery query) => query.validate
  | _ => .ok ()

end

end QuerySql
