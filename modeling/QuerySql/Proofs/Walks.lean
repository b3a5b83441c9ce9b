import QuerySql.Compile.Statement

/-!
# Walks over a query

Two ways to go over all that a query says. One puts other values in the place of those that stand
there and leaves the tree as it is. The other collects something for each value that is written into
the statement, in the order of the statement.

* `Revision`: another value for each value, by its place; `Query.revise` replaces all.
* `Collector`: what to collect for a value; `Query.collect` collects all of it.
* `FirstOf p xs x`: what a search for `p` in the order of a walk ends with.
-/

namespace QuerySql

/-- The datatype with the given spelling, if there is one. -/
def Datatype.ofSpelling? (datatype : Option String) : Option Datatype :=
  datatype.bind fun s => (Datatype.parse s).toOption

theorem Datatype.ofSpelling?_eq_some {s : String} {d : Datatype} (h : Datatype.parse s = .ok d) :
    Datatype.ofSpelling? (some s) = some d := by
  simp [Datatype.ofSpelling?, h, Except.toOption]

theorem Datatype.ofSpelling?_eq_none {s : String} {e : VocabularyError}
    (h : Datatype.parse s = .error e) : Datatype.ofSpelling? (some s) = none := by
  simp [Datatype.ofSpelling?, h, Except.toOption]

/-- A subquery is compared with only after an operator that is known and takes a right-hand side,
and without a datatype. -/
def takesSubquery (operator : String) (datatype : Option String) : Bool :=
  match Operator.parse operator with
  | .ok op => !op.isNullary && datatype.isNone
  | .error _ => false

/-! ## Replacing values -/

/-- Other values for the values of a query, depending on their place. -/
structure Revision where
  /-- Another flag that says that the literals of a comparison or typed value are static. -/
  flag : Bool → Bool := id
  scalar : Option Datatype → Bool → Json → Json
  array : Bool → List Json → List Json
  /-- Other parameters for a function in a select list, which are static. -/
  selected : List Json → List Json
  bound : RowBound → RowBound := id

/-- Leaves every value as it is. -/
def Revision.same : Revision where
  scalar _ _ j := j
  array _ items := items
  selected items := items

/-- Replaces the parameters of a function call, unless they name columns. -/
def FunctionCall.revise (f : List Json → List Json) (call : FunctionCall) : FunctionCall :=
  if call.isField then call else { call with params := f call.params }

/-- Replaces the values of a left-hand side. -/
def Clause.revise (r : Revision) (isStatic : Bool) : Clause → Clause
  | .column name => .column name
  | .call function => .call (function.revise (r.array isStatic))

mutual

/-- Replaces the values of a query. -/
def Query.revise (r : Revision) : Query → Query
  | { table, selection, joins, conditions, groupBy, having, orderBy, limit, offset } =>
    { table
      selection := reviseSelection r selection
      joins
      conditions := reviseFilter r conditions
      groupBy
      having := reviseFilter r having
      orderBy
      limit := limit.map r.bound
      offset := offset.map r.bound }

/-- Replaces the values of a select list that may be absent. -/
def reviseSelection (r : Revision) : Option (List SelectionItem) → Option (List SelectionItem)
  | none => none
  | some items => some (reviseColumns r items)

/-- Replaces the values of conditions that may be absent. -/
def reviseFilter (r : Revision) : Option (List Condition) → Option (List Condition)
  | none => none
  | some members => some (reviseConditions r members)

/-- Replaces the values of a select list. -/
def reviseColumns (r : Revision) : List SelectionItem → List SelectionItem
  | [] => []
  | item :: rest => item.revise r :: reviseColumns r rest

/-- Replaces the values of an item of a select list. -/
def SelectionItem.revise (r : Revision) : SelectionItem → SelectionItem
  | .column name => .column name
  | .detail { field, aliasName, subquery, function } =>
    .detail
      { field
        aliasName
        subquery := reviseSubquery r subquery
        function := function.map (FunctionCall.revise r.selected) }
  | .case { branches, default, aliasName } =>
    .case
      { branches := reviseConditions r branches, default := reviseTypedValue r default, aliasName }

/-- Replaces the values of a subquery that may be absent. -/
def reviseSubquery (r : Revision) : Option Query → Option Query
  | none => none
  | some query => some (query.revise r)

/-- Replaces the values of sibling conditions. -/
def reviseConditions (r : Revision) : List Condition → List Condition
  | [] => []
  | condition :: rest => condition.revise r :: reviseConditions r rest

/-- Replaces the values of a condition. -/
def Condition.revise (r : Revision) : Condition → Condition
  | .group operand members => .group operand (reviseConditions r members)
  | .comparison operand { clause, operator, datatype, isStatic, value, expectation } =>
    .comparison operand
      { clause := clause.map (Clause.revise r isStatic)
        operator
        datatype
        isStatic := r.flag isStatic
        value := reviseValue r datatype isStatic value
        expectation := reviseTypedValue r expectation }

/-- Replaces the values of a typed value that may be absent. -/
def reviseTypedValue (r : Revision) : Option TypedValue → Option TypedValue
  | none => none
  | some { value, datatype, isStatic } =>
    some { value := reviseValue r datatype isStatic value, datatype, isStatic := r.flag isStatic }

/-- Replaces a value that may be absent. -/
def reviseValue (r : Revision) (datatype : Option String) (isStatic : Bool) :
    Option Value → Option Value
  | none => none
  | some (.literal scalar) =>
    some (.literal (r.scalar (Datatype.ofSpelling? datatype) isStatic scalar))
  | some (.range lower upper) =>
    some (.range (lower.map (r.scalar (Datatype.ofSpelling? datatype) isStatic))
      (upper.map (r.scalar (Datatype.ofSpelling? datatype) isStatic)))
  | some (.array items) => some (.array (r.array isStatic items))
  | some (.call function) => some (.call (function.revise (r.array isStatic)))
  | some (.subquery query) => some (.subquery (query.revise r))
  | some (.unsupported object) => some (.unsupported object)

end

theorem reviseValue_some (r : Revision) (datatype : Option String) (isStatic : Bool)
    (value : Value) : ∃ value', reviseValue r datatype isStatic (some value) = some value' := by
  cases value <;> exact ⟨_, by rw [reviseValue]⟩

/-! ## Collecting -/

/-- What to collect for the values that are written into a statement. -/
structure Collector (α : Type) where
  scalar : Datatype → Bool → Json → List α
  array : Bool → List Json → List α
  bound : RowBound → List α := fun _ => []
  /-- What parentheses make of what is collected between them. -/
  group : List α → List α := id

variable {α : Type}

/-- Collects from a function call, whose parameters are values unless they name columns. -/
def FunctionCall.collect (c : Collector α) (isStatic : Bool) (call : FunctionCall) : List α :=
  c.group (if call.isField then [] else c.array isStatic call.params)

/-- Collects from a function in a select list, whose parameters are static. -/
def FunctionCall.collectSelected (c : Collector α) (call : FunctionCall) : List α :=
  if call.params.isEmpty then c.group [] else call.collect c true

/-- Collects from a left-hand side. -/
def Clause.collect (c : Collector α) (isStatic : Bool) : Clause → List α
  | .column _ => []
  | .call function => function.collect c isStatic

/-- Collects from a value with a datatype. -/
def Value.collect (c : Collector α) (datatype : Datatype) (isStatic : Bool) : Value → List α
  | .literal scalar => c.scalar datatype isStatic scalar
  | .array items => c.array isStatic items
  | .call function => function.collect c isStatic
  | .range .. | .subquery _ | .unsupported _ => []

/-- Collects from what stands after an operator: `BETWEEN` takes a range and nothing else, and a
list stands between parentheses. -/
def operandCollect (c : Collector α) (operator : Operator) (datatype : Datatype)
    (isStatic : Bool) (value : Option Value) : List α :=
  match operator, value with
  | .isNull, _ | .isNotNull, _ | _, none => []
  | .between, some (.range lower upper) =>
    lower.toList.flatMap (c.scalar datatype isStatic) ++
      upper.toList.flatMap (c.scalar datatype isStatic)
  | .between, some _ => []
  | .inList, some value | .notInList, some value => c.group (value.collect c datatype isStatic)
  | _, some value => value.collect c datatype isStatic

/-- Collects from what stands after an operator, by the spellings of operator and datatype; without
either there is nothing. -/
def comparedCollect (c : Collector α) (operator : String) (datatype : Option String)
    (isStatic : Bool) (value : Option Value) : List α :=
  match Operator.parse operator, Datatype.ofSpelling? datatype with
  | .ok op, some d => operandCollect c op d isStatic value
  | _, _ => []

mutual

/-- Collects from a query, in the order of the clauses of its statement. -/
def Query.collect (c : Collector α) : Query → List α
  | { selection, conditions, having, limit, offset, .. } =>
    selectionCollect c selection ++ filterCollect c conditions ++ filterCollect c having ++
      limit.toList.flatMap c.bound ++ offset.toList.flatMap c.bound

/-- Collects from a select list that may be absent. -/
def selectionCollect (c : Collector α) : Option (List SelectionItem) → List α
  | none => []
  | some items => columnCollect c items

/-- Collects from conditions that may be absent. -/
def filterCollect (c : Collector α) : Option (List Condition) → List α
  | none => []
  | some members => conditionCollect c members

/-- Collects from a select list. -/
def columnCollect (c : Collector α) : List SelectionItem → List α
  | [] => []
  | item :: rest => item.collect c ++ columnCollect c rest

/-- Collects from an item of a select list. -/
def SelectionItem.collect (c : Collector α) : SelectionItem → List α
  | .column _ => []
  | .detail { subquery, function, .. } => detailCollect c function subquery
  | .case { branches, default, .. } => conditionCollect c branches ++ typedValueCollect c default

/-- Collects from a subquery or, without one, from the function of a field. -/
def detailCollect (c : Collector α) (function : Option FunctionCall) : Option Query → List α
  | none => function.toList.flatMap (FunctionCall.collectSelected c)
  | some query => c.group (query.collect c)

/-- Collects from sibling conditions. -/
def conditionCollect (c : Collector α) : List Condition → List α
  | [] => []
  | condition :: rest => condition.collect c ++ conditionCollect c rest

/-- Collects from a condition: its left-hand side, its right-hand side and its expectation. -/
def Condition.collect (c : Collector α) : Condition → List α
  | .group _ members => c.group (conditionCollect c members)
  | .comparison _ { clause, operator, datatype, isStatic, value, expectation } =>
    clause.toList.flatMap (Clause.collect c isStatic) ++
      expressionCollect c operator datatype isStatic value ++ typedValueCollect c expectation

/-- Collects from a right-hand side. -/
def expressionCollect (c : Collector α) (operator : String) (datatype : Option String)
    (isStatic : Bool) : Option Value → List α
  | some (.subquery query) =>
    if takesSubquery operator datatype then c.group (query.collect c)
    else comparedCollect c operator datatype isStatic (some (.subquery query))
  | value => comparedCollect c operator datatype isStatic value

/-- Collects from a typed value that may be absent. Without a datatype it is a subquery. -/
def typedValueCollect (c : Collector α) : Option TypedValue → List α
  | none => []
  | some { value := some (.subquery query), datatype, .. } =>
    if datatype.isNone then c.group (query.collect c) else []
  | some { value, datatype, isStatic } =>
    match Datatype.ofSpelling? datatype with
    | some d => value.toList.flatMap (Value.collect c d isStatic)
    | none => []

end

section Spellings

variable (c : Collector α)

theorem comparedCollect_none (operator : String) (isStatic : Bool) (value : Option Value) :
    comparedCollect c operator none isStatic value = [] := by
  unfold comparedCollect
  cases Operator.parse operator <;> rfl

/-- With a datatype a subquery is not compiled. -/
theorem expressionCollect_some (operator s : String) (isStatic : Bool) (value : Option Value) :
    expressionCollect c operator (some s) isStatic value =
      comparedCollect c operator (some s) isStatic value := by
  match value with
  | some (.subquery query) =>
    rw [expressionCollect, takesSubquery]
    cases Operator.parse operator <;> simp
  | none | some (.literal _) | some (.range _ _) | some (.array _) | some (.call _)
  | some (.unsupported _) => rfl

theorem typedValueCollect_some (s : String) (isStatic : Bool) (value : Option Value) :
    typedValueCollect c (some ⟨value, some s, isStatic⟩) =
      match Datatype.ofSpelling? (some s) with
      | some d => value.toList.flatMap (Value.collect c d isStatic)
      | none => [] := by
  match value with
  | some (.subquery query) =>
    simp only [typedValueCollect]
    cases Datatype.ofSpelling? (some s) <;> rfl
  | none | some (.literal _) | some (.range _ _) | some (.array _) | some (.call _)
  | some (.unsupported _) => rfl

end Spellings

/-- Collects nothing. -/
def Collector.nothing : Collector α where
  scalar _ _ _ := []
  array _ _ := []

theorem FunctionCall.collect_nothing (isStatic : Bool) (call : FunctionCall) :
    call.collect (.nothing : Collector α) isStatic = [] := ite_self []

theorem FunctionCall.collectSelected_nothing (call : FunctionCall) :
    call.collectSelected (.nothing : Collector α) = [] := by
  rw [FunctionCall.collectSelected, call.collect_nothing true]
  exact ite_self []

theorem Value.collect_nothing (datatype : Datatype) (isStatic : Bool) (value : Value) :
    value.collect (.nothing : Collector α) datatype isStatic = [] := by
  cases value with
  | call function => exact function.collect_nothing isStatic
  | _ => rfl

theorem operandCollect_nothing (operator : Operator) (datatype : Datatype) (isStatic : Bool)
    (value : Option Value) :
    operandCollect (.nothing : Collector α) operator datatype isStatic value = [] := by
  unfold operandCollect
  split
  · rfl
  · rfl
  · rfl
  · simp [Collector.nothing]
  · rfl
  · exact Value.collect_nothing ..
  · exact Value.collect_nothing ..
  · exact Value.collect_nothing ..

/-! ## Searching -/

/-- The first of the list that has the property. -/
def FirstOf (p : α → Prop) (xs : List α) (x : α) : Prop :=
  ∃ before after, xs = before ++ x :: after ∧ p x ∧ ∀ y ∈ before, ¬ p y

theorem not_firstOf_nil {p : α → Prop} {x : α} : ¬ FirstOf p [] x := by
  rintro ⟨before, after, heq, -⟩
  simp at heq

theorem firstOf_cons_iff {p : α → Prop} {y x : α} {xs : List α} :
    FirstOf p (y :: xs) x ↔ p y ∧ x = y ∨ ¬ p y ∧ FirstOf p xs x := by
  constructor
  · rintro ⟨before, after, heq, hx, hbefore⟩
    cases before with
    | nil =>
      cases heq
      exact .inl ⟨hx, rfl⟩
    | cons z before =>
      cases heq
      rw [List.forall_mem_cons] at hbefore
      exact .inr ⟨hbefore.1, before, after, rfl, hx, hbefore.2⟩
  · rintro (⟨hy, rfl⟩ | ⟨hy, before, after, rfl, hx, hbefore⟩)
    · exact ⟨[], xs, rfl, hy, by simp⟩
    · exact ⟨y :: before, after, rfl, hx, List.forall_mem_cons.mpr ⟨hy, hbefore⟩⟩

theorem find?_eq_some_iff_firstOf {f : α → Bool} {xs : List α} {x : α} :
    xs.find? f = some x ↔ FirstOf (fun y => f y = true) xs x := by
  simp only [List.find?_eq_some_iff_append, Bool.not_eq_true', FirstOf, Bool.not_eq_true]
  constructor
  · rintro ⟨hx, before, after, heq, hbefore⟩
    exact ⟨before, after, heq, hx, hbefore⟩
  · rintro ⟨before, after, heq, hx, hbefore⟩
    exact ⟨hx, before, after, heq, hbefore⟩

/-- There is a first one exactly if there is one at all. -/
theorem exists_firstOf_iff {p : α → Prop} {xs : List α} :
    (∃ x, FirstOf p xs x) ↔ ∃ x ∈ xs, p x := by
  classical
  have h := @List.find?_isSome α xs fun x => decide (p x)
  simpa only [Option.isSome_iff_exists, find?_eq_some_iff_firstOf, decide_eq_true_eq] using h

end QuerySql
