import QuerySql.Compile.Literal
import QuerySql.Proofs.Walks
import QuerySql.Query.Document

/-!
# Leaves of a query

The texts and values that stand in a query, each with what its place says about how it is written.
Assumptions on a whole query are assumptions on its leaves.

* `Query.leaves` lists them, in the order of the members of each node.
* `Query.Unreserved`: no leaf holds a reserved character.
* `Revision.Fixes.filterMap_leaves`: a revision keeps what it leaves alone at each leaf.
-/

namespace QuerySql

/-- A text or value that stands in a query. -/
inductive Leaf where
  /-- A text that is written as it is: the name of a table, column, alias or function. -/
  | name (text : String)
  /-- The spelling of an operator or datatype. -/
  | spelling (text : String)
  /-- A parameter that names a column. -/
  | field (value : Json)
  /-- An element of an array, or a parameter that is a literal. -/
  | item (isStatic : Bool) (value : Json)
  /-- A single value or an end of a range. -/
  | scalar (datatype : Option String) (isStatic : Bool) (value : Json)
  /-- An object of no known shape. -/
  | object (value : Json)
  | bound (bound : RowBound)

/-- The leaves of a function call. -/
def FunctionCall.leaves (isStatic : Bool) (call : FunctionCall) : List Leaf :=
  .name call.name :: call.params.map fun j => if call.isField then .field j else .item isStatic j

/-- The leaves of a left-hand side. -/
def Clause.leaves (isStatic : Bool) : Clause → List Leaf
  | .column name => [.name name]
  | .call function => function.leaves isStatic

/-- The leaves of a join. -/
def Join.leaves (join : Join) : List Leaf :=
  .name join.table :: join.on.flatMap fun (left, right) => [.name left, .name right]

mutual

/-- The leaves of a query. -/
def Query.leaves : Query → List Leaf
  | { table, selection, joins, conditions, groupBy, having, orderBy, limit, offset } =>
    .name table :: selectionLeaves selection ++ (joins.getD []).flatMap Join.leaves ++
      filterLeaves conditions ++ (groupBy.getD []).map .name ++ filterLeaves having ++
      (orderBy.toList.flatMap SortOrder.fields).map .name ++ limit.toList.map .bound ++
      offset.toList.map .bound

/-- The leaves of a select list that may be absent. -/
def selectionLeaves : Option (List SelectionItem) → List Leaf
  | none => []
  | some items => columnLeaves items

/-- The leaves of conditions that may be absent. -/
def filterLeaves : Option (List Condition) → List Leaf
  | none => []
  | some members => conditionLeaves members

/-- The leaves of a select list. -/
def columnLeaves : List SelectionItem → List Leaf
  | [] => []
  | item :: rest => item.leaves ++ columnLeaves rest

/-- The leaves of an item of a select list. The parameters of its function are static. -/
def SelectionItem.leaves : SelectionItem → List Leaf
  | .column name => [.name name]
  | .detail { field, aliasName, subquery, function } =>
    field.toList.map .name ++ aliasName.toList.map .name ++ subqueryLeaves subquery ++
      function.toList.flatMap (FunctionCall.leaves true)
  | .case { branches, default, aliasName } =>
    conditionLeaves branches ++ typedValueLeaves default ++ aliasName.toList.map .name

/-- The leaves of a subquery that may be absent. -/
def subqueryLeaves : Option Query → List Leaf
  | none => []
  | some query => query.leaves

/-- The leaves of sibling conditions. -/
def conditionLeaves : List Condition → List Leaf
  | [] => []
  | condition :: rest => condition.leaves ++ conditionLeaves rest

/-- The leaves of a condition. -/
def Condition.leaves : Condition → List Leaf
  | .group _ members => conditionLeaves members
  | .comparison _ { clause, operator, datatype, isStatic, value, expectation } =>
    clause.toList.flatMap (Clause.leaves isStatic) ++ [.spelling operator] ++
      datatype.toList.map .spelling ++ valueLeaves datatype isStatic value ++
      typedValueLeaves expectation

/-- The leaves of a typed value that may be absent. -/
def typedValueLeaves : Option TypedValue → List Leaf
  | none => []
  | some { value, datatype, isStatic } =>
    datatype.toList.map .spelling ++ valueLeaves datatype isStatic value

/-- The leaves of a value that may be absent. -/
def valueLeaves (datatype : Option String) (isStatic : Bool) : Option Value → List Leaf
  | none => []
  | some (.literal scalar) => [.scalar datatype isStatic scalar]
  | some (.range lower upper) => (lower.toList ++ upper.toList).map (.scalar datatype isStatic)
  | some (.array items) => items.map (.item isStatic)
  | some (.call function) => function.leaves isStatic
  | some (.subquery query) => query.leaves
  | some (.unsupported object) => [.object object]

end

/-- No reserved character stands in the leaf. -/
def Leaf.isUnreserved : Leaf → Bool
  | .name s | .spelling s => !hasReserved s
  | .field j | .item _ j | .scalar _ _ j | .object j => j.reserved?.isNone
  | .bound _ => true

/-- No reserved character stands in the query. -/
def Query.Unreserved (q : Query) : Prop := ∀ l ∈ q.leaves, l.isUnreserved = true

instance (q : Query) : Decidable q.Unreserved :=
  inferInstanceAs (Decidable (∀ l ∈ q.leaves, l.isUnreserved = true))

@[simp] theorem Leaf.isUnreserved_name (s : String) :
    (Leaf.name s).isUnreserved = true ↔ hasReserved s = false := by
  simp [Leaf.isUnreserved]

@[simp] theorem Leaf.isUnreserved_field (j : Json) :
    (Leaf.field j).isUnreserved = true ↔ j.reserved? = none := by
  simp [Leaf.isUnreserved]

@[simp] theorem Leaf.isUnreserved_item (isStatic : Bool) (j : Json) :
    (Leaf.item isStatic j).isUnreserved = true ↔ j.reserved? = none := by
  simp [Leaf.isUnreserved]

@[simp] theorem Leaf.isUnreserved_scalar (datatype : Option String) (isStatic : Bool) (j : Json) :
    (Leaf.scalar datatype isStatic j).isUnreserved = true ↔ j.reserved? = none := by
  simp [Leaf.isUnreserved]

/-! ## The leaves of a revision -/

/-- The revision leaves alone what `f` takes from a leaf. -/
structure Revision.Fixes (r : Revision) {β : Type} (f : Leaf → Option β) : Prop where
  items (isStatic : Bool) (js : List Json) :
    ((r.array isStatic js).map (Leaf.item (r.flag isStatic))).filterMap f =
      (js.map (Leaf.item isStatic)).filterMap f
  selected (js : List Json) :
    ((r.selected js).map (Leaf.item true)).filterMap f = (js.map (Leaf.item true)).filterMap f
  bound (b : RowBound) : f (.bound (r.bound b)) = f (.bound b)
  scalar (datatype : Option String) (isStatic : Bool) (j : Json) :
    f (.scalar datatype (r.flag isStatic) (r.scalar (Datatype.ofSpelling? datatype) isStatic j)) =
      f (.scalar datatype isStatic j)

namespace Revision.Fixes

variable {r : Revision} {β : Type} {f : Leaf → Option β}

theorem filterMap_bounds (h : r.Fixes f) (b : Option RowBound) :
    ((b.map r.bound).toList.map Leaf.bound).filterMap f =
      (b.toList.map Leaf.bound).filterMap f := by
  cases b with
  | none => rfl
  | some b => simp only [Option.map_some, Option.toList_some, List.map_cons, List.map_nil,
      List.filterMap_cons, h.bound]

theorem filterMap_scalars (h : r.Fixes f) (datatype : Option String) (isStatic : Bool)
    (j : Option Json) :
    ((j.map (r.scalar (Datatype.ofSpelling? datatype) isStatic)).toList.map
        (Leaf.scalar datatype (r.flag isStatic))).filterMap f =
      (j.toList.map (Leaf.scalar datatype isStatic)).filterMap f := by
  cases j with
  | none => rfl
  | some j => simp only [Option.map_some, Option.toList_some, List.map_cons, List.map_nil,
      List.filterMap_cons, h.scalar]

/-- The leaves of a call are fixed if its parameters are. -/
theorem filterMap_call {isStatic isStatic' : Bool} {g : List Json → List Json}
    (hg : ∀ js, ((g js).map (Leaf.item isStatic')).filterMap f =
      (js.map (Leaf.item isStatic)).filterMap f) (call : FunctionCall) :
    ((call.revise g).leaves isStatic').filterMap f = (call.leaves isStatic).filterMap f := by
  obtain ⟨name, isField, params⟩ := call
  cases isField with
  | true => rfl
  | false =>
    simp only [FunctionCall.revise, FunctionCall.leaves, Bool.false_eq_true, if_false,
      List.filterMap_cons, hg]

theorem filterMap_selected (h : r.Fixes f) (call : Option FunctionCall) :
    ((call.map (FunctionCall.revise r.selected)).toList.flatMap
        (FunctionCall.leaves true)).filterMap f =
      (call.toList.flatMap (FunctionCall.leaves true)).filterMap f := by
  cases call with
  | none => rfl
  | some call => simpa using filterMap_call h.selected call

theorem filterMap_clause (h : r.Fixes f) (isStatic : Bool) (clause : Option Clause) :
    ((clause.map (Clause.revise r isStatic)).toList.flatMap
        (Clause.leaves (r.flag isStatic))).filterMap f =
      (clause.toList.flatMap (Clause.leaves isStatic)).filterMap f := by
  match clause with
  | none | some (.column _) => rfl
  | some (.call function) =>
    simpa [Clause.revise, Clause.leaves] using filterMap_call (h.items isStatic) function

mutual

/-- What is taken from the leaves of a query is taken from those of its revision. -/
theorem filterMap_leaves (h : r.Fixes f) :
    (q : Query) → (q.revise r).leaves.filterMap f = q.leaves.filterMap f
  | { table, selection, joins, conditions, groupBy, having, orderBy, limit, offset } => by
    simp only [Query.revise, Query.leaves, List.cons_append, List.filterMap_cons,
      List.filterMap_append, filterMap_selection h selection, filterMap_filter h conditions,
      filterMap_filter h having, h.filterMap_bounds]

theorem filterMap_selection (h : r.Fixes f) : (items : Option (List SelectionItem)) →
    (selectionLeaves (reviseSelection r items)).filterMap f = (selectionLeaves items).filterMap f
  | none => rfl
  | some items => by
    rw [reviseSelection, selectionLeaves, selectionLeaves, filterMap_columns h items]

theorem filterMap_filter (h : r.Fixes f) : (members : Option (List Condition)) →
    (filterLeaves (reviseFilter r members)).filterMap f = (filterLeaves members).filterMap f
  | none => rfl
  | some members => by
    rw [reviseFilter, filterLeaves, filterLeaves, filterMap_conditions h members]

theorem filterMap_columns (h : r.Fixes f) : (items : List SelectionItem) →
    (columnLeaves (reviseColumns r items)).filterMap f = (columnLeaves items).filterMap f
  | [] => rfl
  | item :: rest => by
    rw [reviseColumns, columnLeaves, columnLeaves, List.filterMap_append, List.filterMap_append,
      filterMap_item h item, filterMap_columns h rest]

theorem filterMap_item (h : r.Fixes f) : (item : SelectionItem) →
    (item.revise r).leaves.filterMap f = item.leaves.filterMap f
  | .column _ => rfl
  | .detail { field, aliasName, subquery, function } => by
    simp only [SelectionItem.revise, SelectionItem.leaves, List.filterMap_append,
      filterMap_subquery h subquery, h.filterMap_selected]
  | .case { branches, default, aliasName } => by
    simp only [SelectionItem.revise, SelectionItem.leaves, List.filterMap_append,
      filterMap_conditions h branches, filterMap_typedValue h default]

theorem filterMap_subquery (h : r.Fixes f) : (query : Option Query) →
    (subqueryLeaves (reviseSubquery r query)).filterMap f = (subqueryLeaves query).filterMap f
  | none => rfl
  | some query => by
    rw [reviseSubquery, subqueryLeaves, subqueryLeaves, filterMap_leaves h query]

theorem filterMap_conditions (h : r.Fixes f) : (members : List Condition) →
    (conditionLeaves (reviseConditions r members)).filterMap f =
      (conditionLeaves members).filterMap f
  | [] => rfl
  | condition :: rest => by
    rw [reviseConditions, conditionLeaves, conditionLeaves, List.filterMap_append,
      List.filterMap_append, filterMap_condition h condition, filterMap_conditions h rest]

theorem filterMap_condition (h : r.Fixes f) : (condition : Condition) →
    (condition.revise r).leaves.filterMap f = condition.leaves.filterMap f
  | .group operand members => by
    rw [Condition.revise, Condition.leaves, Condition.leaves, filterMap_conditions h members]
  | .comparison operand { clause, operator, datatype, isStatic, value, expectation } => by
    simp only [Condition.revise, Condition.leaves, List.filterMap_append, h.filterMap_clause,
      filterMap_value h datatype isStatic value, filterMap_typedValue h expectation]

theorem filterMap_typedValue (h : r.Fixes f) : (typed : Option TypedValue) →
    (typedValueLeaves (reviseTypedValue r typed)).filterMap f = (typedValueLeaves typed).filterMap f
  | none => rfl
  | some { value, datatype, isStatic } => by
    simp only [reviseTypedValue, typedValueLeaves, List.filterMap_append,
      filterMap_value h datatype isStatic value]

theorem filterMap_value (h : r.Fixes f) (datatype : Option String) (isStatic : Bool) :
    (value : Option Value) →
      (valueLeaves datatype (r.flag isStatic) (reviseValue r datatype isStatic value)).filterMap f =
        (valueLeaves datatype isStatic value).filterMap f
  | none => by rw [reviseValue, valueLeaves, valueLeaves]
  | some (.literal scalar) => by
    rw [reviseValue, valueLeaves, valueLeaves, List.filterMap_cons, List.filterMap_cons, h.scalar]
  | some (.range lower upper) => by
    simp only [reviseValue, valueLeaves, List.map_append, List.filterMap_append,
      h.filterMap_scalars]
  | some (.array items) => by
    simp only [reviseValue, valueLeaves, h.items]
  | some (.call function) => by
    rw [reviseValue, valueLeaves, valueLeaves, filterMap_call (h.items isStatic)]
  | some (.subquery query) => by
    rw [reviseValue, valueLeaves, valueLeaves, filterMap_leaves h query]
  | some (.unsupported object) => by rw [reviseValue, valueLeaves, valueLeaves]

end

end Revision.Fixes

end QuerySql
