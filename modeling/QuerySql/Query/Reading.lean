import QuerySql.Query.Basic
import QuerySql.Query.Record
import QuerySql.Text.Blank
import QuerySql.Text.Uppercase

/-!
# Reading descriptors

Which part of a descriptor a JSON value stands for depends on where it stands. A value is therefore
read bottom up in each way that the value around it could ask for: its `Reading` holds the outcome
as a query, as a condition and so on, computed from the readings of its parts.

Nodes of several shapes are told apart by their JSON kind, objects by the keys they have.

* `Json.reading` is the recursion; `Query.ofJson`, `Condition.ofJson`, … pick one outcome.
-/

namespace QuerySql

/-! ## Words and bounds -/

/-- The operand with the given spelling. -/
def Operand.ofText (s : String) : Except ShapeError Operand :=
  let word := Text.uppercase (Text.trim s)
  if word = "AND" then .ok .and
  else if word = "OR" then .ok .or
  else .error (.unknownOperand s)

/-- The direction with the given spelling. -/
def Direction.ofText (s : String) : Except ShapeError Direction :=
  let word := Text.uppercase (Text.trim s)
  if word = "ASC" then .ok .ascending
  else if word = "DESC" then .ok .descending
  else .error (.unknownDirection s)

/-- The kind of join with the given spelling; any other text is a plain join. Of the letters in
these words none is the lower case of a letter beyond ASCII. -/
def JoinKind.ofText (s : String) : JoinKind :=
  let word := (Text.trim s).toList.map Char.toLower
  if word = "inner".toList then .inner
  else if word = "left".toList then .left
  else if word = "right".toList then .right
  else .plain

/-- An operand, given as a string. -/
def Operand.ofJson (j : Json) : Except ShapeError Operand := j.string.bind Operand.ofText

/-- A direction, given as a string. -/
def Direction.ofJson (j : Json) : Except ShapeError Direction := j.string.bind Direction.ofText

/-- A kind of join, given as a string or null. -/
def JoinKind.ofJson (j : Json) : Except ShapeError JoinKind :=
  j.string?.map fun s => (s.map JoinKind.ofText).getD .plain

/-- The value is exactly `true`. -/
def Json.isTrue : Json → Bool
  | .bool b => b
  | _ => false

/-- A limit or offset: a natural number, or an object with one as its value. -/
def RowBound.ofJson (j : Json) : Except ShapeError RowBound :=
  match j with
  | .num n =>
    match n.toNat? with
    | some rows => .ok (.bare rows)
    | none => .error (.boundKind j)
  | .obj members =>
    match (members.lookup "value").bind Json.toNat? with
    | some rows => .ok (.flagged rows ((members.lookup "isStatic").any Json.isTrue))
    | none => .error (.boundKind j)
  | _ => .error (.boundKind j)

/-! ## Records without queries in them -/

/-- A join as written. -/
def Join.record : Record Json Join where
  name := "Join"
  fields := [
    { key := "table", read := fun j s => return { s with table := ← j.string } },
    { key := "type", optional := true,
      read := fun j s => return { s with kind := ← JoinKind.ofJson j } },
    { key := "on", optional := true, read := fun j s => return { s with on := ← j.stringMap } }]
  required := ["table"]

/-- A join. -/
def Join.ofJson (j : Json) : Except ShapeError Join := Join.record.read { table := "" } j.node

/-- Joins in an array. -/
def Join.listOfJson : Json → Except ShapeError (List Join)
  | .arr items => items.mapM Join.ofJson
  | j => .error (.invalidType j .sequence)

/-- A grouping as written. -/
def groupingRecord : Record Json (List String) where
  name := "GroupBy"
  fields := [{ key := "fields", optional := true, read := fun j _ => j.strings }]

/-- The columns of a grouping. -/
def groupingOfJson (j : Json) : Except ShapeError (List String) := groupingRecord.read [] j.node

/-- An order as written. -/
def SortOrder.record : Record Json SortOrder where
  name := "OrderBy"
  fields := [
    { key := "fields", optional := true,
      read := fun j s => return { s with fields := ← j.strings } },
    { key := "sort",
      read := fun j s => return { s with direction := ← j.nullable (Direction.ofJson j) } }]

/-- An order. -/
def SortOrder.ofJson (j : Json) : Except ShapeError SortOrder := SortOrder.record.read {} j.node

/-! ## The readings of a value -/

/-- The outcome of reading a JSON value as each part of a descriptor. -/
structure Reading where
  json : Json
  query : Except ShapeError Query
  selectionItem : Except ShapeError SelectionItem
  selection : Except ShapeError (List SelectionItem)
  condition : Except ShapeError Condition
  conditions : Except ShapeError (List Condition)
  typedValue : Except ShapeError TypedValue
  value : Except ShapeError Value
  call : Except ShapeError FunctionCall

/-- A value that may be null. -/
def Reading.nullable {α : Type} (r : Reading) (read : Reading → Except ShapeError α) :
    Except ShapeError (Option α) :=
  r.json.nullable (read r)

/-- Reads the items of an array. -/
def Node.sequence {α : Type} (n : Node Reading) (read : Reading → Except ShapeError α) :
    Except ShapeError (List α) :=
  match n.json with
  | .arr _ => n.items.mapM read
  | j => .error (.invalidType j .sequence)

/-- A query as written. -/
def Query.record : Record Reading Query where
  name := "QueryDescriptor"
  fields := [
    { key := "table", read := fun r q => return { q with table := ← r.json.string } },
    { key := "selectFields",
      read := fun r q => return { q with selection := ← r.nullable (·.selection) } },
    { key := "join",
      read := fun r q => return { q with joins := ← r.json.nullable (Join.listOfJson r.json) } },
    { key := "conditions",
      read := fun r q => return { q with conditions := ← r.nullable (·.conditions) } },
    { key := "groupBy",
      read := fun r q => return { q with groupBy := ← r.json.nullable (groupingOfJson r.json) } },
    { key := "having",
      read := fun r q => return { q with having := ← r.nullable (·.conditions) } },
    { key := "orderBy",
      read := fun r q => return { q with orderBy := ← r.json.nullable (SortOrder.ofJson r.json) } },
    { key := "limit",
      read := fun r q => return { q with limit := ← r.json.nullable (RowBound.ofJson r.json) } },
    { key := "offset",
      read := fun r q => return { q with offset := ← r.json.nullable (RowBound.ofJson r.json) } }]
  required := ["table"]

/-- A query. -/
def Query.ofNode (n : Node Reading) : Except ShapeError Query := Query.record.read { table := "" } n

/-- A selected detail as written. -/
def SelectionDetail.record : Record Reading SelectionDetail where
  name := "SelectDetail"
  fields := [
    { key := "field", read := fun r s => return { s with field := ← r.json.string? } },
    { key := "alias", read := fun r s => return { s with aliasName := ← r.json.string? } },
    { key := "subquery",
      read := fun r s => return { s with subquery := ← r.nullable (·.query) } },
    { key := "addFunction",
      read := fun r s => return { s with function := ← r.nullable (·.call) } }]

/-- A `CASE` as written. -/
def CaseExpression.record : Record Reading CaseExpression where
  name := "CaseExpr"
  fields := [
    { key := "when", optional := true,
      read := fun r s => return { s with branches := ← r.conditions } },
    { key := "defaultValue",
      read := fun r s => return { s with default := ← r.nullable (·.typedValue) } },
    { key := "alias", read := fun r s => return { s with aliasName := ← r.json.string? } }]

/-- A selected item: a string names a column, an object with branches is a `CASE`, any other
object a detail. -/
def SelectionItem.ofNode (n : Node Reading) : Except ShapeError SelectionItem :=
  match n.json with
  | .str name => .ok (.column name)
  | .obj _ =>
    if (n.members.lookup "when").isSome then (CaseExpression.record.read {} n).map .case
    else (SelectionDetail.record.read {} n).map .detail
  | j => .error (.selectionKind j)

/-- A typed value as written. -/
def TypedValue.record : Record Reading TypedValue where
  name := "TypedValue"
  fields := [
    { key := "value", read := fun r s => return { s with value := ← r.nullable (·.value) } },
    { key := "datatype", read := fun r s => return { s with datatype := ← r.json.string? } },
    { key := "isStatic", optional := true,
      read := fun r s => return { s with isStatic := ← r.json.flag } }]

/-- A typed value. -/
def TypedValue.ofNode (n : Node Reading) : Except ShapeError TypedValue :=
  TypedValue.record.read {} n

/-- A function call: an object with a name, possibly wrapped. A parameter that is no array stands
for itself alone. -/
def FunctionCall.ofNode (n : Node Reading) : Except ShapeError FunctionCall :=
  match n.json with
  | .obj members =>
    match n.members.lookup "sqlFunc" with
    | some inner => inner.call
    | none =>
      match members.lookup "name" with
      | some (.str name) =>
        let params := match members.lookup "params" with
          | some (.arr params) => params
          | none | some .null => []
          | some param => [param]
        .ok ⟨name, (members.lookup "isField").any Json.isTrue, params⟩
      | _ => .error .callName
  | j => .error (.callKind j)

/-- A clause: a string names a column, an object is a function call. -/
def Clause.ofReading (r : Reading) : Except ShapeError Clause :=
  match r.json with
  | .str name => .ok (.column name)
  | .obj _ => r.call.map .call
  | j => .error (.clauseKind j)

/-- A value: arrays and scalars stand for themselves, objects are told apart by their keys. -/
def Value.ofNode (n : Node Reading) : Except ShapeError Value :=
  match n.json with
  | .arr items => .ok (.array items)
  | .obj members =>
    match n.members.lookup "subquery" with
    | some inner => inner.query.map .subquery
    | none =>
      if (members.lookup "sqlFunc").isSome then (FunctionCall.ofNode n).map .call
      else
        match members.lookup "from", members.lookup "to" with
        | none, none => .ok (.unsupported n.json)
        | lower, upper => .ok (.range lower upper)
  | j => .ok (.literal j)

/-- A condition before it is known to be a group or a comparison. -/
structure ConditionDraft where
  operand : Option Operand := none
  comparison : Comparison := {}
  members : Option (List Condition) := none

/-- A condition as written. -/
def ConditionDraft.record : Record Reading ConditionDraft where
  name := "RawCondition"
  fields := [
    { key := "operand",
      read := fun r s => return { s with operand := ← r.json.nullable (Operand.ofJson r.json) } },
    { key := "clause",
      read := fun r s => return { s with comparison.clause := ← r.nullable Clause.ofReading } },
    { key := "operator",
      read := fun r s => return { s with comparison.operator := (← r.json.string?).getD "" } },
    { key := "datatype",
      read := fun r s => return { s with comparison.datatype := ← r.json.string? } },
    { key := "isStatic", optional := true,
      read := fun r s => return { s with comparison.isStatic := ← r.json.flag } },
    { key := "value",
      read := fun r s => return { s with comparison.value := ← r.nullable (·.value) } },
    { key := "composite",
      read := fun r s => return { s with members := ← r.nullable (·.conditions) } },
    { key := "expectation",
      read := fun r s => return { s with comparison.expectation := ← r.nullable (·.typedValue) } }]

/-- A condition with members is a group, whatever else it has. -/
def ConditionDraft.finish (s : ConditionDraft) : Condition :=
  match s.members with
  | some members => .group s.operand members
  | none => .comparison s.operand s.comparison

/-- A condition. -/
def Condition.ofNode (n : Node Reading) : Except ShapeError Condition :=
  (ConditionDraft.record.read {} n).map ConditionDraft.finish

/-- The readings of a value, from those of its parts. -/
def Reading.ofNode (n : Node Reading) : Reading where
  json := n.json
  query := Query.ofNode n
  selectionItem := SelectionItem.ofNode n
  selection := n.sequence (·.selectionItem)
  condition := Condition.ofNode n
  conditions := n.sequence (·.condition)
  typedValue := TypedValue.ofNode n
  value := Value.ofNode n
  call := FunctionCall.ofNode n

namespace Json

mutual

/-- Reads a value bottom up. -/
def reading : Json → Reading
  | .arr items => .ofNode ⟨.arr items, itemReadings items, []⟩
  | .obj members => .ofNode ⟨.obj members, [], memberReadings members⟩
  | .null => .ofNode ⟨.null, [], []⟩
  | .bool b => .ofNode ⟨.bool b, [], []⟩
  | .num n => .ofNode ⟨.num n, [], []⟩
  | .str s => .ofNode ⟨.str s, [], []⟩

/-- Reads the items of an array. -/
def itemReadings : List Json → List Reading
  | [] => []
  | item :: rest => item.reading :: itemReadings rest

/-- Reads the members of an object. -/
def memberReadings : List (String × Json) → List (String × Reading)
  | [] => []
  | (key, value) :: rest => (key, value.reading) :: memberReadings rest

end

end Json

/-! ## The parts of a descriptor -/

/-- The query that a value stands for. -/
def Query.ofJson (j : Json) : Except ShapeError Query := j.reading.query

/-- The queries of an array. -/
def Query.listOfJson : Json → Except ShapeError (List Query)
  | .arr items => items.mapM Query.ofJson
  | j => .error (.invalidType j .sequence)

/-- The selected item that a value stands for. -/
def SelectionItem.ofJson (j : Json) : Except ShapeError SelectionItem := j.reading.selectionItem

/-- The condition that a value stands for. -/
def Condition.ofJson (j : Json) : Except ShapeError Condition := j.reading.condition

/-- The typed value that a value stands for. -/
def TypedValue.ofJson (j : Json) : Except ShapeError TypedValue := j.reading.typedValue

/-- The clause that a value stands for. -/
def Clause.ofJson (j : Json) : Except ShapeError Clause := Clause.ofReading j.reading

/-- The function call that a value stands for. -/
def FunctionCall.ofJson (j : Json) : Except ShapeError FunctionCall := j.reading.call

/-- The value of a comparison that a JSON value stands for. -/
def Value.ofJson (j : Json) : Except ShapeError Value := j.reading.value

end QuerySql
