import QuerySql.Proofs.Carried
import QuerySql.Proofs.Decimals
import QuerySql.Proofs.Documents
import QuerySql.Proofs.Literals
import QuerySql.Proofs.Statements

/-!
# Bound values in document order

The values that a statement binds are read off its text, from the left. They are those that a walk
over the query meets: the select list, the conditions, the conditions on groups and the bounds, each
literal that is neither static nor left out giving one value of its own.

* `Query.binds` is the walk.
* `Query.Balanced`: the apostrophes of every text that is written as it is are even in number.
* `generate_params_eq_binds`: the values of a statement are those of the walk.
-/

namespace QuerySql

open Compile Sql

/-! ## The walk -/

/-- The value bound for a literal without quotes. -/
def Json.unquotedBind : Json → BindValue
  | .bool b => .boolean b
  | .num n => n.bindValue
  | j => .string (lexical j)

/-- The value of a literal, if it is bound. -/
def boundUnless (isStatic : Bool) (value : BindValue) : List BindValue :=
  if isStatic then [] else [value]

/-- The value of an element of an array; strings are quoted, and all others are like the first
string or number. -/
def elementBinds (isStatic stringLed : Bool) : Json → List BindValue
  | .arr _ | .obj _ => []
  | .str s => boundUnless isStatic (.string s)
  | j => boundUnless isStatic (if stringLed then .string (lexical j) else j.unquotedBind)

/-- The values of an array. -/
def arrayBinds (isStatic : Bool) (items : List Json) : List BindValue :=
  items.flatMap (elementBinds isStatic (isStringLed items))

/-- The values of a function call, whose parameters are literals unless they name columns. -/
def FunctionCall.binds (isStatic : Bool) (call : FunctionCall) : List BindValue :=
  if call.isField then [] else arrayBinds isStatic call.params

/-- The value of a scalar, unless it is not of its datatype. -/
def scalarBinds (datatype : Datatype) (isStatic : Bool) (scalar : Json) : List BindValue :=
  match datatype, scalar with
  | .string, j => boundUnless isStatic (.string (lexical j))
  | .raw, j => boundUnless isStatic (.ofLexical (lexical j))
  | .number, .num n => boundUnless isStatic n.bindValue
  | .boolean, .bool b => boundUnless isStatic (.boolean b)
  | .array, j => arrayBinds isStatic [j]
  | .number, _ | .boolean, _ | .function, _ => []

/-- The values of a value with a datatype. -/
def Value.binds (datatype : Datatype) (isStatic : Bool) : Value → List BindValue
  | .literal scalar => scalarBinds datatype isStatic scalar
  | .array items => arrayBinds isStatic items
  | .call function => function.binds isStatic
  | .range .. | .subquery _ | .unsupported _ => []

/-- The values after an operator: `BETWEEN` takes a range and nothing else, the others no range. -/
def operandBinds (operator : Operator) (datatype : Datatype) (isStatic : Bool) :
    Option Value → List BindValue
  | none => []
  | some (.range lower upper) =>
    if operator = .between then
      (lower.toList ++ upper.toList).flatMap (scalarBinds datatype isStatic)
    else []
  | some value => if operator = .between then [] else value.binds datatype isStatic

/-- The values after an operator and of a datatype as they are spelled; without either there are
none. -/
def comparedBinds (operator : String) (datatype : Option String) (isStatic : Bool)
    (value : Option Value) : List BindValue :=
  match Operator.parse operator, Datatype.ofSpelling? datatype with
  | .ok op, some d => if op.isNullary then [] else operandBinds op d isStatic value
  | _, _ => []

/-- The values of a left-hand side. -/
def Clause.binds (isStatic : Bool) : Clause → List BindValue
  | .column _ => []
  | .call function => function.binds isStatic

/-- The value of a bound that has a flag and is not static. -/
def RowBound.binds : RowBound → List BindValue
  | .bare _ => []
  | .flagged rows isStatic => boundUnless isStatic (.ofInteger rows)

mutual

/-- The values of a query, in document order. -/
def Query.binds : Query → List BindValue
  | { selection, conditions, having, limit, offset, .. } =>
    selectionBinds selection ++ filterBinds conditions ++ filterBinds having ++
      limit.toList.flatMap RowBound.binds ++ offset.toList.flatMap RowBound.binds

/-- The values of a select list that may be absent. -/
def selectionBinds : Option (List SelectionItem) → List BindValue
  | none => []
  | some items => columnBinds items

/-- The values of conditions that may be absent. -/
def filterBinds : Option (List Condition) → List BindValue
  | none => []
  | some members => conditionBinds members

/-- The values of a select list. -/
def columnBinds : List SelectionItem → List BindValue
  | [] => []
  | item :: rest => item.binds ++ columnBinds rest

/-- The values of an item of a select list. The parameters of a function of a field are written
into the text. -/
def SelectionItem.binds : SelectionItem → List BindValue
  | .column _ => []
  | .detail { subquery, .. } => subqueryBinds subquery
  | .case { branches, default, .. } => conditionBinds branches ++ typedValueBinds default

/-- The values of a subquery that may be absent. -/
def subqueryBinds : Option Query → List BindValue
  | none => []
  | some query => query.binds

/-- The values of sibling conditions. -/
def conditionBinds : List Condition → List BindValue
  | [] => []
  | condition :: rest => condition.binds ++ conditionBinds rest

/-- The values of a condition: of its left-hand side, its right-hand side and its expectation. -/
def Condition.binds : Condition → List BindValue
  | .group _ members => conditionBinds members
  | .comparison _ { clause, operator, datatype, isStatic, value, expectation } =>
    clause.toList.flatMap (Clause.binds isStatic) ++
      expressionBinds operator datatype isStatic value ++ typedValueBinds expectation

/-- The values of a right-hand side. -/
def expressionBinds (operator : String) (datatype : Option String) (isStatic : Bool) :
    Option Value → List BindValue
  | some (.subquery query) => if takesSubquery operator datatype then query.binds else []
  | value => comparedBinds operator datatype isStatic value

/-- The values of a typed value that may be absent. Without a datatype it is a subquery. -/
def typedValueBinds : Option TypedValue → List BindValue
  | none => []
  | some { value := some (.subquery query), datatype, .. } =>
    if datatype.isNone then query.binds else []
  | some { value, datatype, isStatic } =>
    match Datatype.ofSpelling? datatype with
    | some d => value.toList.flatMap (Value.binds d isStatic)
    | none => []

end

/-! ## The walk as a collector -/

/-- Collects the values. -/
def bindCollector : Collector BindValue where
  scalar := scalarBinds
  array := arrayBinds
  bound := RowBound.binds

/-- Only `BETWEEN` looks into a range. -/
theorem operandBinds_eq_collect {operator : Operator} (hop : operator.isNullary = false)
    (datatype : Datatype) (isStatic : Bool) (value : Option Value) :
    operandBinds operator datatype isStatic value =
      operandCollect bindCollector operator datatype isStatic value := by
  match value with
  | none => cases operator <;> rfl
  | some (.range lower upper) =>
    by_cases hb : operator = .between
    · subst hb
      exact List.flatMap_append
    · cases operator <;> first | rfl | exact absurd rfl hb
  | some (.literal _) | some (.array _) | some (.call _) | some (.subquery _)
  | some (.unsupported _) => cases operator <;> first | rfl | cases hop

theorem comparedBinds_eq_collect (operator : String) (datatype : Option String) (isStatic : Bool)
    (value : Option Value) :
    comparedBinds operator datatype isStatic value =
      comparedCollect bindCollector operator datatype isStatic value := by
  rw [comparedBinds, comparedCollect]
  cases Operator.parse operator with
  | error e => rfl
  | ok op =>
    cases Datatype.ofSpelling? datatype with
    | none => rfl
    | some d =>
      cases hop : op.isNullary with
      | true => cases op <;> first | rfl | cases hop
      | false => simpa [hop] using operandBinds_eq_collect hop d isStatic value

/-- The parameters of a function in a select list are static. -/
theorem FunctionCall.collectSelected_bindCollector (call : FunctionCall) :
    call.collectSelected bindCollector = [] := by
  have helement : ∀ stringLed j, elementBinds true stringLed j = [] := by
    intro stringLed j
    cases j <;> rfl
  simp [FunctionCall.collectSelected, FunctionCall.collect, bindCollector, arrayBinds, helement]

mutual

/-- The walk meets what is collected. -/
theorem Query.binds_eq_collect : (q : Query) → q.binds = q.collect bindCollector
  | { table, selection, joins, conditions, groupBy, having, orderBy, limit, offset } => by
    rw [Query.binds, Query.collect, selectionBinds_eq_collect, filterBinds_eq_collect,
      filterBinds_eq_collect]
    rfl

theorem selectionBinds_eq_collect : (items : Option (List SelectionItem)) →
    selectionBinds items = selectionCollect bindCollector items
  | none => rfl
  | some items => by rw [selectionBinds, selectionCollect, columnBinds_eq_collect]

theorem filterBinds_eq_collect : (members : Option (List Condition)) →
    filterBinds members = filterCollect bindCollector members
  | none => rfl
  | some members => by rw [filterBinds, filterCollect, conditionBinds_eq_collect]

theorem columnBinds_eq_collect : (items : List SelectionItem) →
    columnBinds items = columnCollect bindCollector items
  | [] => rfl
  | item :: rest => by
    rw [columnBinds, columnCollect, SelectionItem.binds_eq_collect, columnBinds_eq_collect]

theorem SelectionItem.binds_eq_collect : (item : SelectionItem) →
    item.binds = item.collect bindCollector
  | .column name => rfl
  | .detail { field, aliasName, subquery := some query, function } => by
    rw [SelectionItem.binds, SelectionItem.collect, subqueryBinds, detailCollect,
      Query.binds_eq_collect]
    rfl
  | .detail { field, aliasName, subquery := none, function } => by
    rw [SelectionItem.binds, SelectionItem.collect, subqueryBinds, detailCollect]
    simp [FunctionCall.collectSelected_bindCollector]
  | .case { branches, default, aliasName } => by
    rw [SelectionItem.binds, SelectionItem.collect, conditionBinds_eq_collect,
      typedValueBinds_eq_collect]

theorem conditionBinds_eq_collect : (members : List Condition) →
    conditionBinds members = conditionCollect bindCollector members
  | [] => rfl
  | condition :: rest => by
    rw [conditionBinds, conditionCollect, Condition.binds_eq_collect, conditionBinds_eq_collect]

theorem Condition.binds_eq_collect : (condition : Condition) →
    condition.binds = condition.collect bindCollector
  | .group operand members => by
    rw [Condition.binds, Condition.collect, conditionBinds_eq_collect]
    rfl
  | .comparison operand { clause, operator, datatype, isStatic, value, expectation } => by
    have hclause : Clause.binds isStatic = Clause.collect bindCollector isStatic := by
      funext clause
      cases clause <;> rfl
    rw [Condition.binds, Condition.collect, expressionBinds_eq_collect, typedValueBinds_eq_collect,
      hclause]

theorem expressionBinds_eq_collect (operator : String) (datatype : Option String)
    (isStatic : Bool) : (value : Option Value) →
    expressionBinds operator datatype isStatic value =
      expressionCollect bindCollector operator datatype isStatic value
  | some (.subquery query) => by
    -- Where a subquery is not compiled, its place has no values.
    have hnone : comparedCollect bindCollector operator datatype isStatic
        (some (.subquery query)) = [] := by
      rw [comparedCollect]
      split
      · next op _ _ _ => cases op <;> rfl
      · rfl
    rw [expressionBinds, expressionCollect, Query.binds_eq_collect, hnone]
    rfl
  | none | some (.literal _) | some (.range _ _) | some (.array _) | some (.call _)
  | some (.unsupported _) => by
    simp only [expressionBinds, expressionCollect, comparedBinds_eq_collect]

theorem typedValueBinds_eq_collect : (typed : Option TypedValue) →
    typedValueBinds typed = typedValueCollect bindCollector typed
  | none => rfl
  | some ⟨some (.subquery query), datatype, isStatic⟩ => by
    rw [typedValueBinds, typedValueCollect, Query.binds_eq_collect]
    rfl
  | some ⟨none, datatype, isStatic⟩ | some ⟨some (.literal _), datatype, isStatic⟩
  | some ⟨some (.range _ _), datatype, isStatic⟩ | some ⟨some (.array _), datatype, isStatic⟩
  | some ⟨some (.call _), datatype, isStatic⟩
  | some ⟨some (.unsupported _), datatype, isStatic⟩ => rfl

end

/-! ## Assumptions on the leaves -/

/-- The text that is written for a leaf as it is, outside of quotes and markers. -/
def Leaf.bareText? : Leaf → Option String
  | .name s => some s
  | .field j => some (lexical j)
  | .scalar datatype true j =>
    if Datatype.ofSpelling? datatype = some .raw then some (lexical j) else none
  | _ => none

/-- The apostrophes of every text that is written as it is are even in number. -/
def Query.Balanced (q : Query) : Prop :=
  ∀ l ∈ q.leaves, ∀ s ∈ l.bareText?, s.toList.count '\x27' % 2 = 0

instance (q : Query) : Decidable q.Balanced :=
  inferInstanceAs (Decidable (∀ l ∈ q.leaves, ∀ s ∈ l.bareText?, s.toList.count '\x27' % 2 = 0))

/-- What is assumed of a leaf. -/
structure Leaf.Regular (l : Leaf) : Prop where
  unreserved : l.isUnreserved = true
  even : ∀ s ∈ l.bareText?, s.toList.count '\x27' % 2 = 0
  representable : l.Representable

namespace Leaf.Regular

theorem bare_name {s : String} (h : (Leaf.name s).Regular) : Bare s where
  unreserved := by simpa using h.unreserved
  even := h.even s rfl

theorem bare_field {j : Json} (h : (Leaf.field j).Regular) : Bare (lexical j) where
  unreserved := hasReserved_lexical (by simpa using h.unreserved)
  even := h.even _ rfl

theorem item_of_scalar {datatype : Option String} {isStatic : Bool} {j : Json}
    (h : (Leaf.scalar datatype isStatic j).Regular) : (Leaf.item isStatic j).Regular where
  unreserved := by simpa using h.unreserved
  even := by simp [Leaf.bareText?]
  representable := by
    have hr := h.representable
    cases j <;> exact hr

end Leaf.Regular

/-! ## Single literals -/

theorem bare_of_isNumberChar {s : String} (h : ∀ c ∈ s.toList, isNumberChar c = true) :
    Bare s where
  unreserved := hasReserved_eq_false.mpr fun c hc => (isNumberChar_ne (h c hc)).1
  even := by
    have hnot : '\x27' ∉ s.toList := fun hm => absurd (h _ hm) (by decide)
    rw [List.count_eq_zero.mpr hnot]

/-- A text that can stand as it is may also be marked. -/
theorem Bare.literal {s : String} (h : Bare s) (isStatic : Bool) :
    Carries (literal isStatic s) (boundUnless isStatic (.ofLexical s)) := by
  cases isStatic with
  | true => exact h.carries
  | false => exact .mark h.unreserved

theorem carries_quoted (isStatic : Bool) {s : String} (h : hasReserved s = false) :
    Carries (literal isStatic (quoteLiteral s)) (boundUnless isStatic (.string s)) := by
  rw [← BindValue.ofLexical_quoteLiteral]
  exact (Bare.quoteLiteral h).literal isStatic

theorem carries_number (isStatic : Bool) {n : Number} (h : n.Representable) :
    Carries (literal isStatic n.text) (boundUnless isStatic n.bindValue) := by
  rw [← Number.ofLexical_text h]
  exact (bare_of_isNumberChar n.isNumberChar_of_mem_text).literal isStatic

theorem carries_boolean (isStatic b : Bool) :
    Carries (literal isStatic (lexical (.bool b))) (boundUnless isStatic (.boolean b)) := by
  have hvalue : BindValue.ofLexical (lexical (.bool b)) = .boolean b := by cases b <;> decide
  rw [← hvalue]
  exact Bare.literal (by cases b <;> decide) isStatic

/-- An element of an array carries its value. -/
theorem carries_element (isStatic stringLed : Bool) {j : Json}
    (h : (Leaf.item isStatic j).Regular) :
    RelatedAll (fun s t vs => t = s ∧ Carries s vs)
      ((elementText? stringLed j).map (literal isStatic)).toList
      ((elementText? stringLed j).map (literal isStatic)).toList
      (elementBinds isStatic stringLed j) := by
  have hlexical : hasReserved (lexical j) = false :=
    hasReserved_lexical (by simpa using h.unreserved)
  have hquoted := carries_quoted isStatic hlexical
  cases j with
  | arr _ => exact .nil
  | obj _ => exact .nil
  | str s => exact .single ⟨rfl, hquoted⟩
  | null =>
    simp only [elementText?, elementBinds, Option.map_some, Option.toList_some]
    refine .single ⟨rfl, ?_⟩
    split
    · exact hquoted
    · have hvalue : Json.unquotedBind .null = .ofLexical (lexical .null) := by decide
      rw [hvalue]
      exact Bare.literal (by decide) isStatic
  | bool b =>
    simp only [elementText?, elementBinds, Option.map_some, Option.toList_some]
    refine .single ⟨rfl, ?_⟩
    split
    · exact hquoted
    · exact carries_boolean isStatic b
  | num n =>
    simp only [elementText?, elementBinds, Option.map_some, Option.toList_some]
    refine .single ⟨rfl, ?_⟩
    split
    · exact hquoted
    · exact carries_number isStatic h.representable

theorem carries_formatArray (isStatic : Bool) {js : List Json}
    (h : ∀ j ∈ js, (Leaf.item isStatic j).Regular) :
    Carries (formatArray isStatic js).value (arrayBinds isStatic js) := by
  have hrelated := assembly_carries.formatArray isStatic isStatic (f := fun j => j)
    (by rw [List.map_id']) fun j hj => carries_element isStatic (isStringLed js) (h j hj)
  exact hrelated.2

/-- A scalar carries its value, or none if nothing is written for it. -/
theorem carries_formatScalar {s : String} {d : Datatype} (hd : Datatype.parse s = .ok d)
    {isStatic : Bool} {j : Json} (h : (Leaf.scalar (some s) isStatic j).Regular) :
    Carries (formatScalar d isStatic j).value (scalarBinds d isStatic j) := by
  have hlexical : hasReserved (lexical j) = false :=
    hasReserved_lexical (by simpa using h.unreserved)
  have hempty : Carries "" [] := Bare.carries (by decide)
  cases d with
  | string => exact carries_quoted isStatic hlexical
  | raw =>
    cases isStatic with
    | false => exact .mark hlexical
    | true =>
      have hraw := Datatype.ofSpelling?_eq_some hd
      have heven := h.even (lexical j) (by simp [Leaf.bareText?, hraw])
      exact Bare.carries ⟨hlexical, heven⟩
  | array =>
    refine carries_formatArray isStatic fun k hk => ?_
    rw [List.mem_singleton.mp hk]
    exact h.item_of_scalar
  | function => exact hempty
  | number =>
    cases j with
    | num n => exact carries_number isStatic h.representable
    | _ => exact hempty
  | boolean =>
    cases j with
    | bool b => exact carries_boolean isStatic b
    | _ => exact hempty

theorem carries_boundText {bound : RowBound} (h : (Leaf.bound bound).Regular) :
    Carries (boundText bound) bound.binds := by
  have hrepr : ∀ n, Bare (Nat.repr n) :=
    fun n => bare_of_isNumberChar fun c hc => isNumberChar_of_mem_repr hc
  match bound with
  | .bare rows => exact (hrepr rows).carries
  | .flagged rows isStatic =>
    have hrows : rows < Word64.count := h.representable
    have hliteral := (hrepr rows).literal isStatic
    rwa [BindValue.ofLexical_repr hrows] at hliteral

/-! ## Statements -/

/-- What is written for a value carries what is collected for it. -/
theorem same_respects_bindCollector :
    Revision.same.Respects bindCollector Leaf.Regular Bare
      (fun s t vs => t = s ∧ Carries s vs) where
  assembly := assembly_carries
  name h := h.bare_name
  field h := h.bare_field
  scalar hd h := ⟨rfl, carries_formatScalar hd h⟩
  array h := ⟨rfl, carries_formatArray _ h⟩
  selected h := ⟨rfl, carries_formatArray _ h⟩
  isEmpty_selected _ := rfl
  bound h := ⟨rfl, carries_boundText h⟩

/-- The statement of a query carries the values of the query. -/
theorem carries_markup (scope : Scope) (q : Query) (h : ∀ l ∈ q.leaves, l.Regular) :
    Returns (Carries · q.binds) (markup scope q).result := by
  intro marked hmarked
  have hrelated := same_respects_bindCollector.markup_related scope q h
  rw [hmarked, ← q.binds_eq_collect] at hrelated
  obtain ⟨_, -, -, hcarries⟩ := hrelated.of_ok
  exact hcarries

/-- The values that a statement binds are those that a walk over the query meets, each of them once
and in document order. Only a limit of depth or the guard stands in the way of a statement. -/
theorem generate_params_eq_binds (options : Options) {q : Query} (hunreserved : q.Unreserved)
    (hbalanced : q.Balanced) (hrepresentable : q.Representable) :
    (∀ st, (options.generate q).result = .ok st → st.params = q.binds) ∧
    ∀ e, (options.generate q).result = .error e →
      (∃ limit, e = .depthExceeded limit) ∨
        (options.withSanitizedInjection = true ∧ e = .injectionRejected) := by
  have hregular : ∀ l ∈ q.leaves, l.Regular :=
    fun l hl => ⟨hunreserved l hl, hbalanced l hl, hrepresentable l hl⟩
  constructor
  · intro st hst
    obtain ⟨marked, hmarked, -, rfl⟩ := options.generate_eq_ok hst
    obtain ⟨parts, hparts, -, hvalues⟩ := carries_markup _ q hregular marked hmarked
    rw [hparts.ofMarked_eq]
    exact hvalues
  · intro e he
    rw [options.result_generate] at he
    cases hmarked : (markup { limit := options.maxDepth } q).result with
    | error e' =>
      rw [hmarked] at he
      cases he
      exact .inl ((compiled_markup hunreserved).eq_depthExceeded hmarked)
    | ok marked =>
      rw [hmarked] at he
      simp only [Except.bind] at he
      split at he
      · next hrejects =>
        cases he
        exact .inr ⟨(Bool.and_eq_true_iff.mp hrejects).1, rfl⟩
      · cases he

/-- A subquery and a list. Blanks stand within quotes in the name of a table and in a literal. -/
def quotedNotes : Query where
  table := "t"
  selection := some [
    .detail
      { subquery := some {
          table := "'a  b'"
          conditions := some [
            .comparison none
              { clause := some (.column "x"), operator := "=", datatype := some "STRING",
                value := some (.literal (.str "it's  me")) }] } }]
  conditions := some [
    .comparison none
      { clause := some (.column "w"), operator := "IN", datatype := some "ARRAY",
        value := some (.array
          [.num (.integer 1), .num (.float (.finite true 0x14000000000000 (-51)))]) }]

theorem generate_params_eq_binds_quotedNotes :
    ∃ st, (Options.generate {} quotedNotes).result = .ok st ∧
      st.sql = "SELECT (SELECT * FROM 'a  b' WHERE x = ?) FROM t WHERE w IN (?, ?)" ∧
      st.params = quotedNotes.binds ∧
      quotedNotes.binds = [.string "it's  me", .integer 1,
        .float (.finite true 0x14000000000000 (-51))] := by
  have hst : (Options.generate {} quotedNotes).result =
      .ok ⟨"SELECT (SELECT * FROM 'a  b' WHERE x = ?) FROM t WHERE w IN (?, ?)",
        [.string "it's  me", .integer 1, .float (.finite true 0x14000000000000 (-51))]⟩ :=
    eq_ok_of_toOption (by decide +kernel)
  have hparams := (generate_params_eq_binds {} (by decide +kernel) (by decide +kernel)
    (by decide +kernel)).1 _ hst
  exact ⟨_, hst, rfl, hparams, hparams.symm⟩

end QuerySql
