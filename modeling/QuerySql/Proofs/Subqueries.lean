import QuerySql.Proofs.Binding
import QuerySql.Proofs.Depth
import QuerySql.Proofs.Guard
import QuerySql.Proofs.Spellings
import QuerySql.Proofs.Splices

/-!
# Subqueries

A subquery is compiled like a query that stands alone, and its statement is put in parentheses into
the statement around it. Spacing is normalized once more there, for each statement around it, and
changes nothing: the statement of the subquery is found again as it is, and so are its values.

* `Query.subqueries`: the subqueries that are compiled with a query, in document order.
* `Query.Visits`: the same at any depth.
* `woven_markup`: the statements of the subqueries stand in the statement of the query.
* `subqueries_spliced`: what this says of the calls of a compiler.
-/

namespace QuerySql

open Compile Sql

/-! ## The subqueries of a query -/

/-- The subquery that a value is, if a subquery is compiled in its place. -/
def subqueriesOfValue (isCompiled : Bool) (value : Option Value) : List Query :=
  if isCompiled then (value.bind Value.subquery?).toList else []

/-- The subquery that a typed value is. -/
def TypedValue.subqueries (typed : TypedValue) : List Query :=
  subqueriesOfValue typed.datatype.isNone typed.value

mutual

/-- The subqueries that are compiled with a condition. -/
def Condition.subqueries : Condition → List Query
  | .group _ members => conditionSubqueries members
  | .comparison _ { operator, datatype, value, expectation, .. } =>
    subqueriesOfValue (takesSubquery operator datatype) value ++
      expectation.toList.flatMap TypedValue.subqueries

/-- The subqueries that are compiled with sibling conditions. -/
def conditionSubqueries : List Condition → List Query
  | [] => []
  | condition :: rest => condition.subqueries ++ conditionSubqueries rest

end

/-- The subqueries that are compiled with an item of a select list. -/
def SelectionItem.subqueries : SelectionItem → List Query
  | .column _ => []
  | .detail { subquery, .. } => subquery.toList
  | .case { branches, default, .. } =>
    conditionSubqueries branches ++ default.toList.flatMap TypedValue.subqueries

/-- The subqueries that are compiled with a query and stand in no other subquery, in document
order. -/
def Query.subqueries (q : Query) : List Query :=
  (q.selection.getD []).flatMap SelectionItem.subqueries ++
    conditionSubqueries (q.conditions.getD []) ++ conditionSubqueries (q.having.getD [])

/-- The query has the other one in it as a subquery that is compiled, at any depth. -/
def Query.Visits : Query → Query → Prop :=
  Relation.TransGen fun outer inner => inner ∈ outer.subqueries

/-! ## Leaves of a subquery -/

theorem mem_subqueriesOfValue {isCompiled : Bool} {value : Option Value} {q : Query} :
    q ∈ subqueriesOfValue isCompiled value ↔
      isCompiled = true ∧ value = some (.subquery q) := by
  cases isCompiled with
  | false => simp [subqueriesOfValue]
  | true =>
    rcases value with - | value
    · simp [subqueriesOfValue]
    · cases value <;> simp [subqueriesOfValue, Value.subquery?, eq_comm]

theorem leaves_subset_valueLeaves {isCompiled isStatic : Bool} {datatype : Option String}
    {value : Option Value} {q : Query} (h : q ∈ subqueriesOfValue isCompiled value) :
    q.leaves ⊆ valueLeaves datatype isStatic value := by
  obtain ⟨-, rfl⟩ := mem_subqueriesOfValue.mp h
  exact List.Subset.refl _

theorem leaves_subset_typedValueLeaves {typed : Option TypedValue} {q : Query}
    (h : q ∈ typed.toList.flatMap TypedValue.subqueries) : q.leaves ⊆ typedValueLeaves typed := by
  match typed with
  | none => cases h
  | some ⟨value, datatype, isStatic⟩ =>
    simp only [Option.toList_some, List.flatMap_cons, List.flatMap_nil, List.append_nil] at h
    rw [typedValueLeaves]
    exact List.subset_append_of_subset_right _ (leaves_subset_valueLeaves h)

mutual

theorem Condition.leaves_subset : (condition : Condition) → ∀ {q : Query},
    q ∈ condition.subqueries → q.leaves ⊆ condition.leaves
  | .group operand members, q, h => by
    rw [Condition.subqueries] at h
    rw [Condition.leaves]
    exact leaves_subset_conditionLeaves members h
  | .comparison operand ⟨clause, operator, datatype, isStatic, value, expectation⟩, q, h => by
    rw [Condition.subqueries, List.mem_append] at h
    rw [Condition.leaves]
    rcases h with h | h
    · exact List.subset_append_of_subset_left _
        (List.subset_append_of_subset_right _ (leaves_subset_valueLeaves h))
    · exact List.subset_append_of_subset_right _ (leaves_subset_typedValueLeaves h)

theorem leaves_subset_conditionLeaves : (members : List Condition) → ∀ {q : Query},
    q ∈ conditionSubqueries members → q.leaves ⊆ conditionLeaves members
  | condition :: rest, q, h => by
    rw [conditionSubqueries, List.mem_append] at h
    rw [conditionLeaves]
    rcases h with h | h
    · exact List.subset_append_of_subset_left _ (condition.leaves_subset h)
    · exact List.subset_append_of_subset_right _ (leaves_subset_conditionLeaves rest h)

end

theorem SelectionItem.leaves_subset {item : SelectionItem} {q : Query} (h : q ∈ item.subqueries) :
    q.leaves ⊆ item.leaves := by
  match item with
  | .detail ⟨field, aliasName, some query, function⟩ =>
    cases List.mem_singleton.mp h
    rw [SelectionItem.leaves, subqueryLeaves]
    exact List.subset_append_of_subset_left _
      (List.subset_append_of_subset_right _ (List.Subset.refl _))
  | .case ⟨branches, default, aliasName⟩ =>
    rw [SelectionItem.subqueries, List.mem_append] at h
    rw [SelectionItem.leaves]
    refine List.subset_append_of_subset_left _ ?_
    rcases h with h | h
    · exact List.subset_append_of_subset_left _ (leaves_subset_conditionLeaves branches h)
    · exact List.subset_append_of_subset_right _ (leaves_subset_typedValueLeaves h)

theorem leaves_subset_columnLeaves {items : List SelectionItem} {q : Query}
    (h : q ∈ items.flatMap SelectionItem.subqueries) : q.leaves ⊆ columnLeaves items := by
  induction items with
  | nil => cases h
  | cons item rest ih =>
    rw [List.flatMap_cons, List.mem_append] at h
    rw [columnLeaves]
    rcases h with h | h
    · exact List.subset_append_of_subset_left _ (SelectionItem.leaves_subset h)
    · exact List.subset_append_of_subset_right _ (ih h)

/-- What stands in a subquery stands in the query. -/
theorem Query.leaves_subset {d q : Query} (h : q ∈ d.subqueries) : q.leaves ⊆ d.leaves := by
  obtain ⟨table, selection, joins, conditions, groupBy, having, orderBy, limit, offset⟩ := d
  have hfilter : ∀ {members : Option (List Condition)},
      q ∈ conditionSubqueries (members.getD []) → q.leaves ⊆ filterLeaves members := by
    intro members hq
    cases members with
    | none => cases hq
    | some members => exact leaves_subset_conditionLeaves members hq
  have hselection : q ∈ (selection.getD []).flatMap SelectionItem.subqueries →
      q.leaves ⊆ selectionLeaves selection := by
    intro hq
    cases selection with
    | none => cases hq
    | some items => exact leaves_subset_columnLeaves hq
  simp only [Query.subqueries, List.mem_append] at h
  intro l hl
  simp only [Query.leaves, List.mem_append, List.mem_cons]
  rcases h with (h | h) | h
  · have := hselection h hl
    tauto
  · have := hfilter h hl
    tauto
  · have := hfilter h hl
    tauto

/-! ## Leaves -/

/-- What is assumed of a leaf: no reserved character stands in it, and what is written as it is has
an even number of apostrophes. -/
structure Leaf.Tidy (l : Leaf) : Prop where
  unreserved : l.isUnreserved = true
  even : ∀ s ∈ l.bareText?, s.toList.count '\x27' % 2 = 0

variable {α : Type} {Block : α → List Segment → Prop}

/-- A literal that can stand as it is may be marked, and has no block in it. -/
theorem wovenText_literal (isStatic : Bool) {s : String} (h : Bare s) :
    WovenText Block (literal isStatic s) [] := by
  cases isStatic with
  | true => exact .bare h
  | false => exact .mark h.unreserved

/-- What is written for an element of an array can stand as it is. -/
theorem bare_of_elementText? {stringLed : Bool} {j : Json} {s : String} (hj : j.reserved? = none)
    (hs : elementText? stringLed j = some s) : Bare s := by
  have hquoted : Bare (quoteLiteral (lexical j)) := .quoteLiteral (hasReserved_lexical hj)
  have hcases : Bare (lexical j) →
      Bare (if stringLed then quoteLiteral (lexical j) else lexical j) := by
    intro hlexical
    split
    · exact hquoted
    · exact hlexical
  cases j with
  | arr _ => cases hs
  | obj _ => cases hs
  | str t =>
    cases hs
    exact hquoted
  | null =>
    cases hs
    exact hcases (by decide)
  | bool b =>
    cases hs
    exact hcases (by cases b <;> decide)
  | num n =>
    cases hs
    exact hcases (bare_of_isNumberChar n.isNumberChar_of_mem_text)

theorem wovenText_formatArray (hsettled : ∀ {a b}, Block a b → Settled b) (isStatic : Bool)
    {js : List Json} (h : ∀ j ∈ js, (Leaf.item isStatic j).Tidy) :
    WovenText Block (formatArray isStatic js).value [] := by
  refine (assembly_woven hsettled).formatArray_nil isStatic fun j hj text htext => ?_
  exact wovenText_literal isStatic
    (bare_of_elementText? (by simpa using (h j hj).unreserved) htext)

theorem wovenText_formatScalar (hsettled : ∀ {a b}, Block a b → Settled b) {s : String}
    {d : Datatype} (hd : Datatype.parse s = .ok d) {isStatic : Bool} {j : Json}
    (h : (Leaf.scalar (some s) isStatic j).Tidy) :
    WovenText Block (formatScalar d isStatic j).value [] := by
  have hreserved : j.reserved? = none := by simpa using h.unreserved
  have hlexical := hasReserved_lexical hreserved
  have hempty : WovenText Block "" [] := .bare (by decide)
  cases d with
  | string => exact wovenText_literal isStatic (.quoteLiteral hlexical)
  | raw =>
    cases isStatic with
    | false => exact .mark hlexical
    | true =>
      have hraw := Datatype.ofSpelling?_eq_some hd
      exact .bare ⟨hlexical, h.even (lexical j) (by simp [Leaf.bareText?, hraw])⟩
  | array =>
    refine wovenText_formatArray hsettled isStatic fun k hk => ?_
    rw [List.mem_singleton.mp hk]
    exact ⟨by simpa using hreserved, by simp [Leaf.bareText?]⟩
  | function => exact hempty
  | number =>
    cases j with
    | num n =>
      exact wovenText_literal isStatic (bare_of_isNumberChar n.isNumberChar_of_mem_text)
    | _ => exact hempty
  | boolean =>
    cases j with
    | bool b => exact wovenText_literal isStatic (by cases b <;> decide)
    | _ => exact hempty

theorem wovenText_boundText (bound : RowBound) : WovenText Block (boundText bound) [] := by
  have hrepr : ∀ n, Bare (Nat.repr n) :=
    fun n => bare_of_isNumberChar fun c hc => isNumberChar_of_mem_repr hc
  match bound with
  | .bare rows => exact .bare (hrepr rows)
  | .flagged rows isStatic => exact wovenText_literal isStatic (hrepr rows)

/-- What is written for a value has no block in it. -/
theorem same_respects_nothing (hsettled : ∀ {a b}, Block a b → Settled b) :
    Revision.same.Respects Collector.nothing Leaf.Tidy Bare
      (fun s t as => t = s ∧ WovenText Block s as) where
  assembly := assembly_woven hsettled
  name h := ⟨by simpa using h.unreserved, h.even _ rfl⟩
  field h := ⟨hasReserved_lexical (by simpa using h.unreserved), h.even _ rfl⟩
  scalar hd h := ⟨rfl, wovenText_formatScalar hsettled hd h⟩
  array h := ⟨rfl, wovenText_formatArray hsettled _ h⟩
  selected h := ⟨rfl, wovenText_formatArray hsettled _ h⟩
  isEmpty_selected _ := rfl
  bound _ := ⟨rfl, wovenText_boundText _⟩

/-! ## The statement of a subquery -/

/-- The statement of a query is settled: spacing it once more changes nothing. -/
theorem settled_markup (scope : Scope) {q : Query} (h : ∀ l ∈ q.leaves, l.Tidy) :
    Returns (fun text => ∃ parts, Marked text parts ∧ Settled parts) (markup scope q).result := by
  intro text htext
  -- No block is asked for, only that the quotes of the text before spacing come in pairs.
  have hrelated := (@same_respects_nothing Empty (fun _ _ => False)
    (fun h => h.elim)).markup_unspaced scope h
  rw [htext] at hrelated
  obtain ⟨_, -, unspaced, _, rfl, -, -, parts, hparts, hwoven⟩ := hrelated.of_ok
  refine ⟨_, hparts.normalizeSpacing, ?_⟩
  generalize q.collect Collector.nothing = nothing at hwoven
  cases hwoven with
  | gap hpaired => exact hpaired.settled_respaceParts false false
  | block _ hblock => exact hblock.elim

/-- The scope has this limit and is not beyond it. -/
structure Compile.Scope.Within (limit : Nat) (scope : Scope) : Prop where
  limit_eq : scope.limit = limit
  depth_le : scope.depth ≤ limit

theorem Compile.Scope.Within.nested {limit : Nat} {scope : Scope} (h : scope.Within limit) :
    Returns (Scope.Within limit) scope.nested.result := by
  unfold Scope.nested
  simp only [Compilation.result_ite, Compilation.result_throw, Compilation.result_pure]
  split
  · exact .error _ _
  · next hgo =>
    refine .ok ⟨h.limit_eq, ?_⟩
    have := h.limit_eq
    simp only at hgo ⊢
    omega

/-- A query that is compiled within a limit is compiled alone, to the same text. -/
theorem Compile.Scope.Within.markup_eq {limit : Nat} {scope : Scope} (h : scope.Within limit)
    {q : Query} {text : String} (htext : (markup scope q).result = .ok text) :
    (markup { limit } q).result = .ok text := by
  obtain ⟨limit, hdepth⟩ := h
  obtain ⟨text', hlimited⟩ := limited_markup q
  have hscope := hlimited scope
  have halone := hlimited { limit := scope.limit }
  simp only [htext] at hscope halone
  specialize hscope (by omega)
  specialize halone (by omega)
  split at hscope
  · cases hscope
  · cases hscope
    rw [← limit, halone, if_neg (by omega)]

/-- The parts are those of the statement of the query. -/
structure Alone (limit : Nat) (q : Query) (parts : List Segment) : Prop where
  compiled : ∃ text, (markup { limit } q).result = .ok text ∧ Marked text parts
  settled : Settled parts

/-- The statement of a subquery is a block of the text that it stands in. -/
theorem wovenText_markup {limit : Nat} {inner : Scope} (hinner : inner.Within limit) {q : Query}
    (h : ∀ l ∈ q.leaves, l.Tidy) :
    Returns (fun text => WovenText (Alone limit) (parenthesized text) [q])
      (markup inner q).result := by
  intro text htext
  obtain ⟨parts, hparts, hsettled⟩ := settled_markup inner h text htext
  exact .parenthesized hparts ⟨⟨text, hinner.markup_eq htext, hparts⟩, hsettled⟩

/-! ## The recursion over a query -/

section Recursion

variable (limit : Nat)

/-- Putting texts together puts the statements of subqueries in them one after the other. -/
theorem assembly_alone :
    Assembly id Bare (fun s t qs => t = s ∧ WovenText (Alone limit) s qs) :=
  assembly_woven Alone.settled

/-- What is written for a value has no subquery in it. -/
theorem same_respects_alone : Revision.same.Respects Collector.nothing Leaf.Tidy Bare
    (fun s t qs => t = s ∧ WovenText (Alone limit) s qs) :=
  same_respects_nothing Alone.settled

variable {limit}

theorem takesSubquery_eq_true {operator : String} {datatype : Option String}
    (h : takesSubquery operator datatype = true) :
    ∃ op, Operator.parse operator = .ok op ∧ op.isNullary = false ∧ datatype = none := by
  unfold takesSubquery at h
  split at h
  · next op hop =>
    simp only [Bool.and_eq_true, Bool.not_eq_true', Option.isNone_iff_eq_none] at h
    exact ⟨op, hop, h.1, h.2⟩
  · cases h

theorem comparedCollect_nothing (operator : String) (datatype : Option String) (isStatic : Bool)
    (value : Option Value) :
    comparedCollect (.nothing : Collector Query) operator datatype isStatic value = [] := by
  unfold comparedCollect
  split
  · exact operandCollect_nothing ..
  · rfl

theorem wovenText_expressionText {scope : Scope} (hscope : scope.Within limit)
    (clause operator : String) (datatype : Option String) (isStatic : Bool) (value : Option Value)
    (hl : ∀ l ∈ valueLeaves datatype isStatic value, l.Tidy) :
    Returns (WovenText (Alone limit) · (subqueriesOfValue (takesSubquery operator datatype) value))
      (expressionText scope clause operator datatype isStatic value).result := by
  by_cases hcompiled : takesSubquery operator datatype = true ∧ ∃ q, value = some (.subquery q)
  · obtain ⟨htakes, q, rfl⟩ := hcompiled
    rw [htakes]
    obtain ⟨op, hop, hnullary, rfl⟩ := takesSubquery_eq_true htakes
    rw [result_expressionText]
    simp only [hop, hnullary]
    refine hscope.nested.bind fun inner hinner => ?_
    refine (wovenText_markup hinner hl).bind fun text htext => .ok ?_
    exact ((assembly_alone limit).applied op ⟨rfl, htext⟩).2
  · -- Without a subquery to compile, what is written is a value.
    have hcollect : expressionCollect Collector.nothing operator datatype isStatic value =
        subqueriesOfValue (takesSubquery operator datatype) value := by
      match value with
      | some (.subquery q) =>
        have htakes : takesSubquery operator datatype = false := by simpa using hcompiled
        rw [expressionCollect, htakes]
        exact comparedCollect_nothing ..
      | none | some (.literal _) | some (.range _ _) | some (.array _) | some (.call _)
      | some (.unsupported _) =>
        simp [expressionCollect, comparedCollect_nothing, subqueriesOfValue, Value.subquery?]
    intro text htext
    have hrelated := (same_respects_alone limit).expressionText_related scope clause clause operator
      datatype isStatic value hl
    rw [htext, hcollect] at hrelated
    obtain ⟨_, -, -, hwoven⟩ := hrelated.of_ok
    exact hwoven

theorem wovenText_typedValueText {scope : Scope} (hscope : scope.Within limit)
    (typed : TypedValue) (hl : ∀ l ∈ typedValueLeaves (some typed), l.Tidy) :
    Returns (WovenText (Alone limit) · typed.subqueries) (typedValueText scope typed).result := by
  obtain ⟨value, datatype, isStatic⟩ := typed
  by_cases hcompiled : datatype = none ∧ ∃ q, value = some (.subquery q)
  · obtain ⟨rfl, q, rfl⟩ := hcompiled
    rw [result_typedValueText]
    refine hscope.nested.bind fun inner hinner => ?_
    exact (wovenText_markup hinner hl).bind fun text htext => .ok htext
  · have hcollect : typedValueCollect Collector.nothing (some ⟨value, datatype, isStatic⟩) =
        TypedValue.subqueries ⟨value, datatype, isStatic⟩ := by
      match datatype, value with
      | some s, value =>
        rw [typedValueCollect_some]
        cases Datatype.ofSpelling? (some s) <;>
          simp [TypedValue.subqueries, subqueriesOfValue, Value.collect_nothing]
      | none, some (.subquery q) => exact absurd ⟨rfl, q, rfl⟩ hcompiled
      | none, none | none, some (.literal _) | none, some (.range _ _) | none, some (.array _)
      | none, some (.call _) | none, some (.unsupported _) => rfl
    intro text htext
    have hrelated := (same_respects_alone limit).typedValueText_related scope value datatype
      isStatic hl
    rw [htext, hcollect] at hrelated
    obtain ⟨_, -, -, hwoven⟩ := hrelated.of_ok
    exact hwoven

theorem wovenText_defaultText {scope : Scope} (hscope : scope.Within limit)
    (typed : Option TypedValue) (hl : ∀ l ∈ typedValueLeaves typed, l.Tidy) :
    Returns (WovenText (Alone limit) · (typed.toList.flatMap TypedValue.subqueries))
      (defaultText scope typed).result := by
  cases typed with
  | none => exact .ok (.bare (by decide))
  | some typed =>
    simp only [Option.toList_some, List.flatMap_cons, List.flatMap_nil, List.append_nil]
    exact wovenText_typedValueText hscope typed hl

theorem wovenText_clauseText (isStatic : Bool) (clause : Option Clause)
    (hl : ∀ l ∈ clause.toList.flatMap (Clause.leaves isStatic), l.Tidy) :
    WovenText (Alone limit) (clauseText isStatic clause).value [] := by
  have hnothing : clause.toList.flatMap (Clause.collect Collector.nothing isStatic) =
      ([] : List Query) := by
    match clause with
    | none | some (.column _) => rfl
    | some (.call function) => simp [Clause.collect, function.collect_nothing isStatic]
  have hwoven := ((same_respects_alone limit).clauseText isStatic clause hl).2
  rwa [hnothing] at hwoven

mutual

theorem wovenText_conditionText : (condition : Condition) → ∀ {scope : Scope},
    scope.Within limit → (∀ l ∈ condition.leaves, l.Tidy) →
      Returns (WovenText (Alone limit) · condition.subqueries)
        (conditionText scope condition).result
  | .group operand members, scope, hscope, hl => by
    rw [result_conditionText_group, Condition.subqueries]
    refine hscope.nested.bind fun inner hinner => ?_
    refine (wovenText_conditionTexts members hinner hl).bind fun texts htexts => .ok ?_
    have hjoined := (assembly_alone limit).joinFragments " " (by decide) htexts
    exact ((assembly_alone limit).prefixed operand
      (.single ((assembly_alone limit).parenthesized hjoined))).2
  | .comparison operand ⟨clause, operator, datatype, isStatic, value, expectation⟩, scope, hscope,
      hl => by
    simp only [Condition.leaves, List.forall_mem_append] at hl
    obtain ⟨⟨⟨⟨hclause, -⟩, -⟩, hvalue⟩, hexpectation⟩ := hl
    have hleft := @wovenText_clauseText limit isStatic clause hclause
    rw [result_conditionText_comparison, Condition.subqueries]
    refine (wovenText_expressionText hscope _ operator datatype isStatic value hvalue).bind
      fun text htext => ?_
    match expectation with
    | none =>
      have hall := (assembly_alone limit).prefixed operand
        (.cons ⟨rfl, hleft⟩ (.single ⟨rfl, htext⟩))
      exact .ok (by simpa using hall.2)
    | some typed =>
      refine (wovenText_typedValueText hscope typed hexpectation).bind fun result hresult => .ok ?_
      have hbranch := (assembly_alone limit).branchText ⟨rfl, hleft⟩ ⟨rfl, htext⟩ ⟨rfl, hresult⟩
      simpa using hbranch.2

theorem wovenText_conditionTexts : (members : List Condition) → ∀ {scope : Scope},
    scope.Within limit → (∀ l ∈ conditionLeaves members, l.Tidy) →
      Returns (fun texts => RelatedAll (fun s t qs => t = s ∧ WovenText (Alone limit) s qs) texts
        texts (conditionSubqueries members)) (conditionTexts scope members).result
  | [], scope, hscope, hl => .ok .nil
  | condition :: rest, scope, hscope, hl => by
    simp only [conditionLeaves, List.forall_mem_append] at hl
    rw [result_conditionTexts_cons, conditionSubqueries]
    refine (wovenText_conditionText condition hscope hl.1).bind fun text htext => ?_
    refine (wovenText_conditionTexts rest hscope hl.2).bind fun texts htexts => .ok ?_
    exact .cons ⟨rfl, htext⟩ htexts

end

theorem wovenText_columnText {scope : Scope} (hscope : scope.Within limit) (item : SelectionItem)
    (hl : ∀ l ∈ item.leaves, l.Tidy) :
    Returns (WovenText (Alone limit) · item.subqueries) (columnText scope item).result := by
  have hrespects := same_respects_alone limit
  match item with
  | .column name =>
    exact .ok (.bare (hrespects.name (hl (.name name) (by simp [SelectionItem.leaves]))))
  | .detail ⟨field, aliasName, some q, function⟩ =>
    simp only [SelectionItem.leaves, subqueryLeaves, List.forall_mem_append] at hl
    obtain ⟨⟨⟨-, halias⟩, hquery⟩, -⟩ := hl
    rw [result_columnText_subquery]
    refine hscope.nested.bind fun inner hinner => ?_
    refine (wovenText_markup hinner hquery).bind fun text htext => .ok ?_
    exact (hrespects.aliasName halias ⟨rfl, htext⟩).2
  | .detail ⟨field, aliasName, none, function⟩ =>
    simp only [SelectionItem.leaves, subqueryLeaves, List.forall_mem_append] at hl
    obtain ⟨⟨⟨hfield, halias⟩, -⟩, hfunction⟩ := hl
    have hnothing : function.toList.flatMap (FunctionCall.collectSelected Collector.nothing) =
        ([] : List Query) := by
      cases function with
      | none => rfl
      | some call => simp [call.collectSelected_nothing]
    have htext := (hrespects.fieldText field function hfield hfunction).2
    rw [hnothing] at htext
    rw [result_columnText_field]
    exact .ok (hrespects.aliasName halias ⟨rfl, htext⟩).2
  | .case ⟨branches, default, aliasName⟩ =>
    simp only [SelectionItem.leaves, List.forall_mem_append] at hl
    obtain ⟨⟨hbranches, hdefault⟩, halias⟩ := hl
    rw [result_columnText_case, SelectionItem.subqueries]
    refine (wovenText_conditionTexts branches hscope hbranches).bind fun texts htexts => ?_
    refine (wovenText_defaultText hscope default hdefault).bind fun text htext => .ok ?_
    have hjoined := (assembly_alone limit).joinFragments " " (by decide) htexts
    exact (hrespects.aliasName halias ((assembly_alone limit).caseText hjoined ⟨rfl, htext⟩)).2

theorem wovenText_columnTexts {scope : Scope} (hscope : scope.Within limit)
    (items : List SelectionItem) (hl : ∀ l ∈ columnLeaves items, l.Tidy) :
    Returns (fun texts => RelatedAll (fun s t qs => t = s ∧ WovenText (Alone limit) s qs) texts
      texts (items.flatMap SelectionItem.subqueries)) (columnTexts scope items).result := by
  induction items with
  | nil => exact .ok .nil
  | cons item rest ih =>
    simp only [columnLeaves, List.forall_mem_append] at hl
    rw [result_columnTexts_cons, List.flatMap_cons]
    refine (wovenText_columnText hscope item hl.1).bind fun text htext => ?_
    exact (ih hl.2).bind fun texts htexts => .ok (.cons ⟨rfl, htext⟩ htexts)

theorem wovenText_filterText {scope : Scope} (hscope : scope.Within limit)
    (members : Option (List Condition)) (hl : ∀ l ∈ filterLeaves members, l.Tidy) :
    Returns (WovenText (Alone limit) · (conditionSubqueries (members.getD [])))
      (filterText scope members).result := by
  cases members with
  | none => exact .ok (.bare (by decide))
  | some members =>
    rw [result_filterText_some]
    refine (wovenText_conditionTexts members hscope hl).bind fun texts htexts => .ok ?_
    exact ((assembly_alone limit).joinFragments " " (by decide) htexts).2

/-- The statements of the subqueries of a query stand in its statement, in document order. -/
theorem woven_markup {scope : Scope} (hscope : scope.Within limit) {q : Query}
    (hl : ∀ l ∈ q.leaves, l.Tidy) :
    Returns (WovenText (Alone limit) · q.subqueries) (markup scope q).result := by
  obtain ⟨table, selection, joins, conditions, groupBy, having, orderBy, rows, offset⟩ := q
  have hleaves := hl
  simp only [Query.leaves, List.cons_append, List.forall_mem_cons, List.forall_mem_append] at hl
  obtain ⟨-, ⟨⟨⟨⟨⟨⟨hsel, -⟩, hcond⟩, -⟩, hhav⟩, -⟩, -⟩, -⟩ := hl
  have hselection : Returns (fun texts => RelatedAll
      (fun s t qs => t = s ∧ WovenText (Alone limit) s qs) texts texts
        ((selection.getD []).flatMap SelectionItem.subqueries))
      (selectionTexts scope selection).result := by
    cases selection with
    | none => exact .ok .nil
    | some items => exact wovenText_columnTexts hscope items hsel
  rw [result_markup]
  refine hselection.bind fun columns hcolumns => ?_
  refine (wovenText_filterText hscope conditions hcond).bind fun conds hconds => ?_
  refine (wovenText_filterText hscope having hhav).bind fun hav hhavs => .ok ?_
  have hclauses := (same_respects_alone limit).clauses_related hleaves hcolumns ⟨rfl, hconds⟩
    ⟨rfl, hhavs⟩
  have hnothing : ∀ bound : Option RowBound,
      bound.toList.flatMap Collector.nothing.bound = ([] : List Query) := by
    intro bound
    cases bound <;> rfl
  rw [hnothing, hnothing, List.append_nil, List.append_nil] at hclauses
  exact ((assembly_alone limit).normalizeSpacing hclauses).2

end Recursion

/-! ## Statements found again -/

section Found

variable {limit : Nat} {d q : Query} {text : String} {parts : List Segment}

/-- The statement of a subquery stands in that of the query. -/
theorem exists_encloses_of_mem (hl : ∀ l ∈ d.leaves, l.Tidy)
    (htext : (markup { limit } d).result = .ok text) (hparts : Marked text parts)
    (hq : q ∈ d.subqueries) : ∃ block, Alone limit q block ∧ Encloses parts block := by
  obtain ⟨parts', hparts', hwoven⟩ := woven_markup ⟨rfl, Nat.zero_le _⟩ hl text htext
  obtain rfl : parts' = parts := hparts'.segments_eq.symm.trans hparts.segments_eq
  exact hwoven.exists_encloses hq

theorem Query.Visits.leaves_subset (h : d.Visits q) : q.leaves ⊆ d.leaves := by
  induction h with
  | single hq => exact Query.leaves_subset hq
  | tail _ hq ih => exact List.Subset.trans (Query.leaves_subset hq) ih

/-- So does that of a subquery at any depth. -/
theorem Query.Visits.exists_encloses (h : d.Visits q) (hl : ∀ l ∈ d.leaves, l.Tidy)
    (htext : (markup { limit } d).result = .ok text) (hparts : Marked text parts) :
    ∃ block, Alone limit q block ∧ Encloses parts block := by
  induction h with
  | single hq => exact exists_encloses_of_mem hl htext hparts hq
  | tail hvisits hq ih =>
    obtain ⟨block, ⟨⟨inner, hinner, hblock⟩, -⟩, hencloses⟩ := ih
    have htidy := fun l hm => hl l (Query.Visits.leaves_subset hvisits hm)
    obtain ⟨block', halone, hencloses'⟩ := exists_encloses_of_mem htidy hinner hblock hq
    exact ⟨block', halone, hencloses.trans hencloses'⟩

end Found

/-- What a call returns for the subqueries of a query stands in what it returns for the query. At
any depth it is one piece, with what `wrap` puts around it, and the subqueries that stand in the
same query follow each other in document order. -/
structure Splices {β : Type} [Append β] (call : Query → Except Error β) (wrap : β → β)
    (d : Query) : Prop where
  contiguous {q : Query} : d.Visits q → ∃ whole inner before after,
    call d = .ok whole ∧ call q = .ok inner ∧ whole = before ++ (wrap inner ++ after)
  ordered {e : Query} : e = d ∨ d.Visits e → ∃ whole inners, call e = .ok whole ∧
    List.Forall₂ (fun q inner => call q = .ok inner) e.subqueries inners ∧
      Interleaved (inners.map wrap) whole

/-- Whatever is read off the parts of a statement one after the other is found again. -/
theorem splices_of_parts {β : Type} [Append β] {call : Query → Except Error β} {wrap : β → β}
    (read : List Segment → β) (happend : ∀ ps qs, read (ps ++ qs) = read ps ++ read qs)
    (hwrap : ∀ ps, read (enclosed ps) = wrap (read ps)) {limit : Nat} {d : Query} {text : String}
    {parts : List Segment} (hl : ∀ l ∈ d.leaves, l.Tidy)
    (htext : (markup { limit } d).result = .ok text) (hparts : Marked text parts)
    (hcall : ∀ {q inner block}, q = d ∨ d.Visits q → (markup { limit } q).result = .ok inner →
      Marked inner block → call q = .ok (read block)) : Splices call wrap d where
  contiguous {q} hq := by
    obtain ⟨block, ⟨⟨inner, hinner, hblock⟩, -⟩, before, after, rfl⟩ :=
      hq.exists_encloses hl htext hparts
    refine ⟨_, _, read before, read after, hcall (.inl rfl) htext hparts,
      hcall (.inr hq) hinner hblock, ?_⟩
    rw [happend, happend, hwrap]
  ordered {e} he := by
    obtain ⟨whole, hwhole, hle⟩ : ∃ whole, (markup { limit } e).result = .ok whole ∧
        ∀ l ∈ e.leaves, l.Tidy := by
      rcases he with rfl | he
      · exact ⟨text, htext, hl⟩
      · obtain ⟨block, ⟨⟨inner, hinner, -⟩, -⟩, -⟩ := he.exists_encloses hl htext hparts
        exact ⟨inner, hinner, fun l hm => hl l (he.leaves_subset hm)⟩
    obtain ⟨parts', hparts', hwoven⟩ := woven_markup ⟨rfl, Nat.zero_le _⟩ hle whole hwhole
    obtain ⟨blocks, hblocks, hinterleaved⟩ := hwoven.interleaved happend
    have hvisits : ∀ q ∈ e.subqueries, d.Visits q := by
      intro q hq
      rcases he with rfl | he
      · exact .single hq
      · exact he.tail hq
    refine ⟨_, blocks.map read, hcall he hwhole hparts', ?_, ?_⟩
    · rw [List.forall₂_map_right_iff]
      refine ((List.forall₂_and_left _ _).mpr ⟨hvisits, hblocks⟩).imp fun q block hq => ?_
      obtain ⟨hq, ⟨inner, hinner, hblock⟩, -⟩ := hq
      exact hcall (.inr hq) hinner hblock
    · simpa only [List.map_map, Function.comp_def, hwrap] using hinterleaved

/-! ## The calls of a compiler -/

/-- A statement in parentheses is clean if the text around it is. -/
theorem Sql.Encloses.clean {parts block : List Segment} (h : Encloses parts block)
    (hclean : Clean (String.ofList (parts.flatMap Segment.written))) :
    Clean (String.ofList (block.flatMap Segment.written)) := by
  obtain ⟨before, after, rfl⟩ := h
  intro pre piece post hsplit
  rw [String.toList_ofList] at hsplit
  refine @Clean.not_forbidden _ hclean (before.flatMap Segment.written ++ ['(']) pre piece post
    (')' :: after.flatMap Segment.written) ?_ ?_ ?_
  · simp [enclosed, Segment.written, hsplit]
  · simp [show Text.isWordChar '(' = false by decide]
  · rfl

/-- What the guard lets through has no subquery that it rejects. -/
theorem Options.rejects_of_encloses {options : Options} {text inner : String}
    {parts block : List Segment} (h : Encloses parts block) (hparts : Marked text parts)
    (hblock : Marked inner block) (hpasses : options.rejects text = false) :
    options.rejects inner = false := by
  cases hguard : options.withSanitizedInjection with
  | false => rw [Options.rejects, hguard, Bool.false_and]
  | true =>
    rw [options.rejects_eq_false_iff hguard, hparts.unmark_eq] at hpasses
    rw [options.rejects_eq_false_iff hguard, hblock.unmark_eq]
    exact h.clean hpasses

/-- What is returned for a subquery, or for the query itself, if the query passes the guard. -/
theorem Options.outcomes_of_visits {options : Options} {d q : Query} {text inner : String}
    {block : List Segment} (hl : ∀ l ∈ d.leaves, l.Tidy)
    (htext : (markup { limit := options.maxDepth } d).result = .ok text)
    (hpasses : options.rejects text = false) (hq : q = d ∨ d.Visits q)
    (hinner : (markup { limit := options.maxDepth } q).result = .ok inner)
    (hblock : Marked inner block) :
    (options.build q).result = .ok (String.ofList (block.flatMap Segment.written)) ∧
      (options.generate q).result =
        .ok ⟨String.ofList (block.map Segment.placeheld), block.filterMap Segment.bindValue?⟩ := by
  have hinner_passes : options.rejects inner = false := by
    rcases hq with rfl | hq
    · rw [htext] at hinner
      cases hinner
      exact hpasses
    · obtain ⟨parts, hparts, -⟩ := settled_markup _ hl text htext
      obtain ⟨block', ⟨⟨inner', hinner', hblock'⟩, -⟩, hencloses⟩ :=
        hq.exists_encloses hl htext hparts
      rw [hinner'] at hinner
      cases hinner
      exact Options.rejects_of_encloses hencloses hparts hblock' hpasses
  rw [options.result_build, options.result_generate, hinner]
  simp [Except.bind, hinner_passes, hblock.unmark_eq, hblock.ofMarked_eq]

/-- Every subquery that is compiled with a query is compiled alone as well, and what it is compiled
to stands unchanged in what the query is compiled to: the marked text and, unless the guard rejects
the query, the text with its literals, the text with placeholders and the list of values. -/
theorem subqueries_spliced (options : Options) {d : Query} (hunreserved : d.Unreserved)
    (hbalanced : d.Balanced) :
    (∀ text, (markup { limit := options.maxDepth } d).result = .ok text →
      Splices (fun q => (markup { limit := options.maxDepth } q).result) parenthesized d) ∧
    ∀ st, (options.generate d).result = .ok st →
      Splices (fun q => (options.build q).result) parenthesized d ∧
        Splices (fun q => (options.generate q).result.map Statement.sql) parenthesized d ∧
        Splices (fun q => (options.generate q).result.map Statement.params) id d := by
  have hl : ∀ l ∈ d.leaves, l.Tidy := fun l hm => ⟨hunreserved l hm, hbalanced l hm⟩
  constructor
  · intro text htext
    obtain ⟨parts, hparts, -⟩ := settled_markup _ hl text htext
    refine splices_of_parts (fun ps => String.ofList (ps.flatMap Segment.marked)) (by simp) ?_
      hl htext hparts fun _ hinner hblock => ?_
    · simp [enclosed, parenthesized, Segment.marked, String.append_assoc]
    · rw [hinner, ← hblock.eq_ofList]
  · intro st hst
    obtain ⟨text, htext, hpasses, -⟩ := options.generate_eq_ok hst
    obtain ⟨parts, hparts, -⟩ := settled_markup _ hl text htext
    refine ⟨?_, ?_, ?_⟩
    · refine splices_of_parts (fun ps => String.ofList (ps.flatMap Segment.written)) (by simp) ?_
        hl htext hparts fun hq hinner hblock => ?_
      · simp [enclosed, parenthesized, Segment.written, String.append_assoc]
      · exact (options.outcomes_of_visits hl htext hpasses hq hinner hblock).1
    · refine splices_of_parts (fun ps => String.ofList (ps.map Segment.placeheld)) (by simp) ?_
        hl htext hparts fun hq hinner hblock => ?_
      · simp [enclosed, parenthesized, Segment.placeheld, String.append_assoc]
      · rw [(options.outcomes_of_visits hl htext hpasses hq hinner hblock).2]
        rfl
    · refine splices_of_parts (fun ps => ps.filterMap Segment.bindValue?) (by simp) ?_
        hl htext hparts fun hq hinner hblock => ?_
      · simp [enclosed, Segment.bindValue?, List.filterMap_cons]
      · rw [(options.outcomes_of_visits hl htext hpasses hq hinner hblock).2]
        rfl

/-- Who wrote the note. -/
def authorsOf (note : String) : Query where
  table := "notes"
  selection := some [.column "author"]
  conditions := some [
    .comparison none
      { clause := some (.column "note"), operator := "=", datatype := some "STRING",
        value := some (.literal (.str note)) }]

/-- The people who wrote the note. -/
def peopleOf (note : String) : Query where
  table := "people"
  conditions := some [
    .comparison none
      { clause := some (.column "id"), operator := "in",
        value := some (.subquery (authorsOf note)) }]

/-- A subquery in each place for one. The last has another one in it. -/
def noteReport : Query where
  table := "'a  b'"
  selection := some [
    .detail { subquery := some (authorsOf "first  ("), aliasName := some "author" },
    .case
      { branches := [
          .comparison none
            { clause := some (.column "rank"), operator := ">", datatype := some "NUMBER",
              value := some (.literal (.num (.integer 1))),
              expectation := some { value := some (.subquery (authorsOf "second")) } }]
        default := some { value := some (.subquery (peopleOf "it's  )")) } }]

theorem subqueries_spliced_noteReport :
    noteReport.Unreserved ∧ noteReport.Balanced ∧ noteReport.Visits (authorsOf "it's  )") ∧
      (∃ before after, (Options.build {} noteReport).result =
        .ok (before ++ ("(SELECT author FROM notes WHERE note = 'it''s  )')" ++ after))) ∧
      ∃ before after, (Options.generate {} noteReport).result.map Statement.params =
        .ok (before ++ ([.string "it's  )"] ++ after)) := by
  have hunreserved : noteReport.Unreserved := by decide +kernel
  have hbalanced : noteReport.Balanced := by decide +kernel
  have hpeople : peopleOf "it's  )" ∈ noteReport.subqueries :=
    .tail _ (.tail _ (.head _))
  have hauthors : authorsOf "it's  )" ∈ (peopleOf "it's  )").subqueries := .head _
  have hvisits : noteReport.Visits (authorsOf "it's  )") := .tail (.single hpeople) hauthors
  obtain ⟨st, hst⟩ := Option.isSome_iff_exists.mp
    (by decide +kernel : (Options.generate {} noteReport).result.toOption.isSome = true)
  have hbuild : (Options.build {} (authorsOf "it's  )")).result =
      .ok "SELECT author FROM notes WHERE note = 'it''s  )'" :=
    eq_ok_of_toOption (by decide +kernel)
  have hgenerate : (Options.generate {} (authorsOf "it's  )")).result =
      .ok ⟨"SELECT author FROM notes WHERE note = ?", [.string "it's  )"]⟩ :=
    eq_ok_of_toOption (by decide +kernel)
  obtain ⟨hinlined, -, hparams⟩ :=
    (subqueries_spliced {} hunreserved hbalanced).2 st (eq_ok_of_toOption hst)
  obtain ⟨_, _, before, after, hwhole, hinner, rfl⟩ := hinlined.contiguous hvisits
  obtain ⟨_, _, before', after', hwhole', hinner', rfl⟩ := hparams.contiguous hvisits
  rw [hbuild] at hinner
  rw [hgenerate] at hinner'
  cases hinner
  cases hinner'
  exact ⟨hunreserved, hbalanced, hvisits, ⟨before, after, hwhole⟩, before', after', hwhole'⟩

end QuerySql
