import QuerySql.Proofs.Assembly
import QuerySql.Proofs.Compilation
import QuerySql.Proofs.Leaves

/-!
# What the recursion over a query keeps

A query and its revision have the same tree and compile to texts that are put together alike. If a
relation is kept by the ways of putting texts together, and holds for what is written for each value
and for the value in its place, then it holds for the two statements and what is collected from the
query. All that is proved of whole statements by going over the query is an instance of this.

* `Revision.Respects`: revision, collector and relation go together on single values.
* `Revision.Respects.markup_related`: then they do on whole queries, with the same reasons to stop.
-/

namespace QuerySql

open Compile Sql

/-! ## Arrays -/

namespace Compile

/-- What is written for an element of an array, unless it is left out. -/
def elementText? (stringLed : Bool) : Json → Option String
  | .arr _ | .obj _ => none
  | .str s => some (quoteLiteral s)
  | j => some (if stringLed then quoteLiteral (lexical j) else lexical j)

theorem value_formatElement (isStatic stringLed : Bool) (j : Json) :
    (formatElement isStatic stringLed j).value =
      ((elementText? stringLed j).map (literal isStatic)).toList := by
  cases j <;> rfl

theorem value_formatElements (isStatic stringLed : Bool) (js : List Json) :
    (formatElements isStatic stringLed js).value =
      (js.filterMap (elementText? stringLed)).map (literal isStatic) := by
  induction js with
  | nil => rfl
  | cons j js ih =>
    simp only [formatElements, Noted.value_bind, Noted.value_pure, ih, value_formatElement,
      List.filterMap_cons]
    cases elementText? stringLed j <;> rfl

theorem value_formatArray (isStatic : Bool) (js : List Json) :
    (formatArray isStatic js).value =
      joinFragments ", "
        ((js.filterMap (elementText? (isStringLed js))).map (literal isStatic)) := by
  simp only [formatArray, Noted.value_bind, Noted.value_pure, value_formatElements]

theorem hasReserved_of_elementText? {stringLed : Bool} {j : Json} {s : String}
    (hj : j.reserved? = none) (hs : elementText? stringLed j = some s) :
    hasReserved s = false := by
  have hlex := hasReserved_lexical hj
  have hquote := hasReserved_quoteLiteral hlex
  have hcases : s = lexical j ∨ s = quoteLiteral (lexical j) := by
    cases j <;> cases stringLed <;> simp_all [elementText?, lexical]
  rcases hcases with rfl | rfl
  · exact hlex
  · exact hquote

/-- A static array is written without reserved characters. -/
theorem hasReserved_formatArray {js : List Json} (hj : ∀ j ∈ js, j.reserved? = none) :
    hasReserved (formatArray true js).value = false := by
  rw [value_formatArray]
  refine hasReserved_intercalate ", " (by decide) fun s hs => ?_
  obtain ⟨t, ht, rfl⟩ := List.mem_map.mp (List.mem_of_mem_filter hs)
  obtain ⟨j, hjm, hjt⟩ := List.mem_filterMap.mp ht
  exact hasReserved_of_elementText? (hj j hjm) hjt

end Compile

/-- The statement of a query, once its columns and conditions are compiled. -/
def Query.toSelect (q : Query) (columns : List String) (conditions having : String) : Select where
  table := q.table
  columns := columns
  joins := (q.joins.getD []).flatMap joinTexts
  conditions := conditions
  grouping := q.groupBy.getD []
  having := having
  sorting := q.orderBy
  limit := q.limit.map boundText
  offset := q.offset.map boundText

variable {α : Type}

/-- An array whose elements are replaced one by one is related to the array before, if it is led by
a string like it and each element is related to the one in its place. -/
theorem Assembly.formatArray {group : List α → List α} {B : String → Prop}
    {R : String → String → List α → Prop} (h : Assembly group B R) (isStatic isStatic' : Bool)
    {f : Json → Json} {g : Json → List α} {js : List Json}
    (hled : isStringLed (js.map f) = isStringLed js)
    (helement : ∀ j ∈ js,
      RelatedAll R ((elementText? (isStringLed js) j).map (literal isStatic)).toList
        ((elementText? (isStringLed js) (f j)).map (literal isStatic')).toList (g j)) :
    R (formatArray isStatic js).value (formatArray isStatic' (js.map f)).value (js.flatMap g) := by
  rw [value_formatArray, value_formatArray, hled]
  refine h.joinFragments ", " (by decide) ?_
  -- What leads the array is settled by all of it, so it is fixed before the induction on elements.
  revert helement
  generalize isStringLed js = stringLed
  intro helement
  have hsplit : ∀ (isStatic : Bool) (j : Json) (js : List Json),
      ((j :: js).filterMap (elementText? stringLed)).map (literal isStatic) =
        ((elementText? stringLed j).map (literal isStatic)).toList ++
          (js.filterMap (elementText? stringLed)).map (literal isStatic) := by
    intro isStatic j js
    rw [List.filterMap_cons]
    cases elementText? stringLed j <;> rfl
  clear hled
  induction js with
  | nil => exact .nil
  | cons j js ih =>
    rw [List.map_cons, hsplit, hsplit, List.flatMap_cons]
    exact (helement j List.mem_cons_self).append
      (ih fun k hk => helement k (List.mem_cons_of_mem _ hk))

/-- An array for whose elements nothing is collected. -/
theorem Assembly.formatArray_nil {group : List α → List α} {B : String → Prop}
    {Q : String → List α → Prop} (h : Assembly group B fun s t vs => t = s ∧ Q s vs)
    (isStatic : Bool) {js : List Json}
    (helement : ∀ j ∈ js, ∀ text, elementText? (isStringLed js) j = some text →
      Q (literal isStatic text) []) :
    Q (Compile.formatArray isStatic js).value [] := by
  have hrelated : ∀ j ∈ js, RelatedAll (fun s t vs => t = s ∧ Q s vs)
      ((elementText? (isStringLed js) j).map (literal isStatic)).toList
      ((elementText? (isStringLed js) j).map (literal isStatic)).toList [] := by
    intro j hj
    cases htext : elementText? (isStringLed js) j with
    | none => exact .nil
    | some text => exact .single ⟨rfl, helement j hj text htext⟩
  have harray := h.formatArray isStatic isStatic (f := fun j => j) (g := fun _ => [])
    (by rw [List.map_id']) hrelated
  rw [List.flatMap_eq_nil_iff.mpr fun _ _ => rfl] at harray
  exact harray.2

/-! ## Relations that single values keep -/

/-- On the leaves with property `P`, the relation holds between what is written for a value, what is
written for the value in its place, and what is collected for it. -/
structure Revision.Respects (r : Revision) (c : Collector α) (P : Leaf → Prop) (B : String → Prop)
    (R : String → String → List α → Prop) : Prop where
  assembly : Assembly c.group B R
  name {s : String} : P (.name s) → B s
  field {j : Json} : P (.field j) → B (lexical j)
  scalar {s : String} {d : Datatype} {isStatic : Bool} {j : Json} : Datatype.parse s = .ok d →
    P (.scalar (some s) isStatic j) →
      R (formatScalar d isStatic j).value
        (formatScalar d (r.flag isStatic) (r.scalar (some d) isStatic j)).value
        (c.scalar d isStatic j)
  array {isStatic : Bool} {js : List Json} : (∀ j ∈ js, P (.item isStatic j)) →
    R (formatArray isStatic js).value (formatArray (r.flag isStatic) (r.array isStatic js)).value
      (c.array isStatic js)
  selected {js : List Json} : (∀ j ∈ js, P (.item true j)) →
    R (formatArray true js).value (formatArray true (r.selected js)).value (c.array true js)
  isEmpty_selected (js : List Json) : (r.selected js).isEmpty = js.isEmpty
  bound {b : RowBound} : P (.bound b) → R (boundText b) (boundText (r.bound b)) (c.bound b)

namespace Revision.Respects

variable {r : Revision} {c : Collector α} {P : Leaf → Prop} {B : String → Prop}
  {R : String → String → List α → Prop} (h : r.Respects c P B R)

include h

/-! ## Values -/

/-- A function call, if its parameters are related unless they name columns. -/
theorem formatCall {isStatic isStatic' : Bool} {f : List Json → List Json} {call : FunctionCall}
    (hl : ∀ l ∈ call.leaves isStatic, P l)
    (hparams : (∀ j ∈ call.params, P (.item isStatic j)) →
      R (formatArray isStatic call.params).value (formatArray isStatic' (f call.params)).value
        (c.array isStatic call.params)) :
    R (formatCall isStatic call).value (formatCall isStatic' (call.revise f)).value
      (call.collect c isStatic) := by
  obtain ⟨name, isField, params⟩ := call
  have hname : B name := h.name (hl _ (by simp [FunctionCall.leaves]))
  cases isField with
  | true =>
    have hfields : ∀ s ∈ params.map lexical, B s := by
      intro s hs
      obtain ⟨j, hj, rfl⟩ := List.mem_map.mp hs
      exact h.field (hl _ (by simp [FunctionCall.leaves, hj]))
    exact h.assembly.callText hname
      (h.assembly.joinFragments ", " (by decide) (h.assembly.bares hfields))
  | false =>
    have hitems : ∀ j ∈ params, P (.item isStatic j) :=
      fun j hj => hl _ (by simp [FunctionCall.leaves, hj])
    exact h.assembly.callText hname (hparams hitems)

theorem clauseText (isStatic : Bool) (clause : Option Clause)
    (hl : ∀ l ∈ clause.toList.flatMap (Clause.leaves isStatic), P l) :
    R (clauseText isStatic clause).value
      (clauseText (r.flag isStatic) (clause.map (Clause.revise r isStatic))).value
      (clause.toList.flatMap (Clause.collect c isStatic)) := by
  match clause with
  | none => exact h.assembly.empty
  | some (.column name) =>
    exact h.assembly.bare (h.name (hl (.name name) (by simp [Clause.leaves])))
  | some (.call function) =>
    simp only [Option.toList_some, List.flatMap_cons, List.flatMap_nil, List.append_nil] at hl ⊢
    exact h.formatCall hl h.array

theorem formatEnd {s : String} {d : Datatype} (hd : Datatype.parse s = .ok d) (isStatic : Bool)
    (j : Option Json) (hl : ∀ l ∈ j.toList.map (Leaf.scalar (some s) isStatic), P l) :
    R (formatEnd d isStatic j).value
      (formatEnd d (r.flag isStatic) (j.map (r.scalar (some d) isStatic))).value
      (j.toList.flatMap (c.scalar d isStatic)) := by
  cases j with
  | none => exact h.assembly.empty
  | some j =>
    simp only [Option.toList_some, List.flatMap_cons, List.flatMap_nil, List.append_nil]
    exact h.scalar hd (hl _ (by simp))

theorem formatValue {s : String} {d : Datatype} (hd : Datatype.parse s = .ok d) (isStatic : Bool)
    (value : Value) (hl : ∀ l ∈ valueLeaves (some s) isStatic (some value), P l) :
    ∃ value', reviseValue r (some s) isStatic (some value) = some value' ∧
      R (formatValue d isStatic value).value (formatValue d (r.flag isStatic) value').value
        (value.collect c d isStatic) := by
  have hs := Datatype.ofSpelling?_eq_some hd
  cases value with
  | literal scalar =>
    refine ⟨_, by rw [reviseValue, hs], ?_⟩
    exact h.scalar hd (hl _ (by simp [valueLeaves]))
  | array items =>
    refine ⟨_, by rw [reviseValue], ?_⟩
    exact h.array fun j hj => hl _ (by simp [valueLeaves, hj])
  | call function =>
    refine ⟨_, by rw [reviseValue], ?_⟩
    exact h.formatCall (by simpa [valueLeaves] using hl) h.array
  | range lower upper =>
    refine ⟨_, by rw [reviseValue], ?_⟩
    exact h.assembly.empty
  | subquery query =>
    refine ⟨_, by rw [reviseValue], ?_⟩
    exact h.assembly.empty
  | unsupported object =>
    refine ⟨_, by rw [reviseValue], ?_⟩
    exact h.assembly.empty

/-- The operator decides what is made of the value, and only `BETWEEN` looks into a range. -/
theorem rightHandSide (operator : Operator) {s : String} {d : Datatype}
    (hd : Datatype.parse s = .ok d) (isStatic : Bool) (value : Option Value)
    (hl : ∀ l ∈ valueLeaves (some s) isStatic value, P l) :
    R (rightHandSide operator d isStatic value).value
      (rightHandSide operator d (r.flag isStatic) (reviseValue r (some s) isStatic value)).value
      (operandCollect c operator d isStatic value) := by
  have hname := h.assembly.name_operator operator
  cases value with
  | none =>
    cases operator <;> simpa [reviseValue, Compile.rightHandSide, operandCollect] using hname
  | some value =>
    obtain ⟨value', hv, hr⟩ := h.formatValue hd isStatic value hl
    have happlied := h.assembly.applied operator hr
    have hlist := h.assembly.applied operator (h.assembly.parenthesized hr)
    by_cases hb : operator = .between
    · subst hb
      cases value with
      | range lower upper =>
        have hs := Datatype.ofSpelling?_eq_some hd
        simp only [valueLeaves, List.map_append, List.forall_mem_append] at hl
        have hlower := h.formatEnd hd isStatic lower hl.1
        have hupper := h.formatEnd hd isStatic upper hl.2
        have hand := h.assembly.word (s := "AND") (by decide)
        rw [reviseValue, hs]
        exact h.assembly.joinFragments " " (by decide)
          (.cons hname (.cons hlower (.cons hand (.single hupper))))
      | _ => rw [reviseValue]; exact hname
    · rw [hv]
      cases operator with
      | between => exact absurd rfl hb
      | isNull => exact hname
      | isNotNull => exact hname
      | inList => exact hlist
      | notInList => exact hlist
      | _ => exact happlied

/-- A selected field, possibly as argument of a function. -/
theorem fieldText (field : Option String) (function : Option FunctionCall)
    (hf : ∀ l ∈ field.toList.map Leaf.name, P l)
    (hl : ∀ l ∈ function.toList.flatMap (FunctionCall.leaves true), P l) :
    R (fieldText field function).value
      (fieldText field (function.map (FunctionCall.revise r.selected))).value
      (function.toList.flatMap (FunctionCall.collectSelected c)) := by
  have hfield : B (field.getD "") := by
    cases field with
    | none => exact h.assembly.phrase (by decide)
    | some s => exact h.name (hf _ (by simp))
  cases function with
  | none => exact h.assembly.bare hfield
  | some call =>
    simp only [Option.toList_some, List.flatMap_cons, List.flatMap_nil, List.append_nil] at hl ⊢
    have hname : B call.name := h.name (hl _ (by simp [FunctionCall.leaves]))
    have hrevised : (call.revise r.selected).name = call.name ∧
        (call.revise r.selected).params.isEmpty = call.params.isEmpty := by
      rw [FunctionCall.revise]
      split
      · exact ⟨rfl, rfl⟩
      · exact ⟨rfl, h.isEmpty_selected _⟩
    simp only [Compile.fieldText, Option.map_some, FunctionCall.collectSelected, hrevised]
    split
    · exact h.assembly.callText hname (h.assembly.bare hfield)
    · exact h.formatCall hl h.selected

/-! ## Queries -/

theorem names {names : List String} (hl : ∀ l ∈ names.map Leaf.name, P l) : ∀ n ∈ names, B n :=
  fun n hn => h.name (hl _ (List.mem_map.mpr ⟨n, hn, rfl⟩))

theorem aliasName {a b : String} {vs : List α} {name : Option String}
    (hl : ∀ l ∈ name.toList.map Leaf.name, P l) (hab : R a b vs) :
    R (aliased a name) (aliased b name) vs :=
  h.assembly.aliased (fun n hn => h.names hl n (by simpa using hn)) hab

theorem joinTexts {joins : List Join} (hl : ∀ l ∈ joins.flatMap Join.leaves, P l) :
    ∀ text ∈ joins.flatMap joinTexts, B text := by
  intro text ht
  obtain ⟨join, hj, ht⟩ := List.mem_flatMap.mp ht
  obtain ⟨⟨left, right⟩, hon, rfl⟩ := List.mem_map.mp ht
  have hleaf : ∀ s, Leaf.name s ∈ join.leaves → B s :=
    fun s hs => h.name (hl _ (List.mem_flatMap.mpr ⟨join, hj, hs⟩))
  exact h.assembly.joinText (hleaf join.table (by simp [Join.leaves]))
    (hleaf left (List.mem_cons_of_mem _ (List.mem_flatMap.mpr ⟨_, hon, by simp⟩)))
    (hleaf right (List.mem_cons_of_mem _ (List.mem_flatMap.mpr ⟨_, hon, by simp⟩)))

theorem bounds {bound : Option RowBound} (hl : ∀ l ∈ bound.toList.map Leaf.bound, P l) :
    RelatedAll R (bound.map boundText).toList ((bound.map r.bound).map boundText).toList
      (bound.toList.flatMap c.bound) := by
  cases bound with
  | none => exact .nil
  | some b =>
    simp only [Option.toList_some, List.flatMap_cons, List.flatMap_nil, List.append_nil]
    exact .single (h.bound (hl _ (by simp)))

/-- The clauses of a statement, once its columns and conditions are related. -/
theorem clauses_related {q : Query} (hl : ∀ l ∈ q.leaves, P l) {columns columns' : List String}
    {conditions conditions' having having' : String} {cs ws hs : List α}
    (hcolumns : RelatedAll R columns columns' cs) (hconditions : R conditions conditions' ws)
    (hhaving : R having having' hs) :
    R (joinNonempty " " (q.toSelect columns conditions having).clauses)
      (joinNonempty " " ((q.revise r).toSelect columns' conditions' having').clauses)
      (cs ++ ws ++ hs ++ q.limit.toList.flatMap c.bound ++ q.offset.toList.flatMap c.bound) := by
  obtain ⟨table, selection, joins, conditions, groupBy, having, orderBy, limit, offset⟩ := q
  simp only [Query.leaves, List.cons_append, List.forall_mem_cons, List.forall_mem_append] at hl
  obtain ⟨htable, ⟨⟨⟨⟨⟨⟨-, hjoins⟩, -⟩, hgroup⟩, -⟩, horder⟩, hlimit⟩, hoffset⟩ := hl
  refine h.assembly.select_clauses rfl rfl rfl rfl (h.name htable) (h.joinTexts hjoins)
    (h.names hgroup) ?_ hcolumns hconditions hhaving (h.bounds hlimit) (h.bounds hoffset)
  intro order ho field hfield
  refine h.names horder field ?_
  cases ho
  simpa using hfield

omit h

mutual

/-- The statements of the query and of its revision are related, or neither is compiled for the same
reason. -/
theorem markup_related (h : r.Respects c P B R) (scope : Scope) : (q : Query) →
    (∀ l ∈ q.leaves, P l) →
      SameOutcome (R · · (q.collect c)) (markup scope q).result (markup scope (q.revise r)).result
  | { table, selection, joins, conditions, groupBy, having, orderBy, limit, offset }, hl => by
    have hleaves := hl
    simp only [Query.leaves, List.cons_append, List.forall_mem_cons, List.forall_mem_append] at hl
    obtain ⟨-, ⟨⟨⟨⟨⟨⟨hsel, -⟩, hcond⟩, -⟩, hhav⟩, -⟩, -⟩, -⟩ := hl
    rw [Query.revise, result_markup, result_markup, Query.collect]
    refine (h.selectionTexts_related scope selection hsel).bind fun columns columns' hcolumns => ?_
    refine (h.filterText_related scope conditions hcond).bind fun conds conds' hconds => ?_
    refine (h.filterText_related scope having hhav).bind fun hav hav' hhavs => .ok ?_
    exact h.assembly.normalizeSpacing (h.clauses_related hleaves hcolumns hconds hhavs)

theorem selectionTexts_related (h : r.Respects c P B R) (scope : Scope) :
    (items : Option (List SelectionItem)) → (∀ l ∈ selectionLeaves items, P l) →
      SameOutcome (RelatedAll R · · (selectionCollect c items)) (selectionTexts scope items).result
        (selectionTexts scope (reviseSelection r items)).result
  | none, _ => .ok .nil
  | some items, hl => h.columnTexts_related scope items hl

theorem filterText_related (h : r.Respects c P B R) (scope : Scope) :
    (members : Option (List Condition)) → (∀ l ∈ filterLeaves members, P l) →
      SameOutcome (R · · (filterCollect c members)) (filterText scope members).result
        (filterText scope (reviseFilter r members)).result
  | none, _ => .ok h.assembly.empty
  | some members, hl => by
    rw [reviseFilter, result_filterText_some, result_filterText_some, filterCollect]
    refine (h.conditionTexts_related scope members hl).bind fun texts texts' ht => .ok ?_
    exact h.assembly.joinFragments " " (by decide) ht

theorem columnTexts_related (h : r.Respects c P B R) (scope : Scope) :
    (items : List SelectionItem) → (∀ l ∈ columnLeaves items, P l) →
      SameOutcome (RelatedAll R · · (columnCollect c items)) (columnTexts scope items).result
        (columnTexts scope (reviseColumns r items)).result
  | [], _ => .ok .nil
  | item :: rest, hl => by
    simp only [columnLeaves, List.forall_mem_append] at hl
    rw [reviseColumns, result_columnTexts_cons, result_columnTexts_cons, columnCollect]
    refine (h.columnText_related scope item hl.1).bind fun column column' hc => ?_
    refine (h.columnTexts_related scope rest hl.2).bind fun columns columns' hcs => ?_
    exact .ok (.cons hc hcs)

theorem columnText_related (h : r.Respects c P B R) (scope : Scope) : (item : SelectionItem) →
    (∀ l ∈ item.leaves, P l) → SameOutcome (R · · (item.collect c)) (columnText scope item).result
      (columnText scope (item.revise r)).result
  | .column name, hl =>
    .ok (h.assembly.bare (h.name (hl (.name name) (by simp [SelectionItem.leaves]))))
  | .detail { field, aliasName, subquery := some query, function }, hl => by
    simp only [SelectionItem.leaves, subqueryLeaves, List.forall_mem_append] at hl
    obtain ⟨⟨⟨-, halias⟩, hquery⟩, -⟩ := hl
    rw [SelectionItem.revise, reviseSubquery, result_columnText_subquery,
      result_columnText_subquery, SelectionItem.collect, detailCollect]
    refine (SameOutcome.nested scope).bind fun inner _ hi => ?_
    subst hi
    refine (h.markup_related inner query hquery).bind fun text text' ht => .ok ?_
    exact h.aliasName halias (h.assembly.parenthesized ht)
  | .detail { field, aliasName, subquery := none, function }, hl => by
    simp only [SelectionItem.leaves, subqueryLeaves, List.forall_mem_append] at hl
    obtain ⟨⟨⟨hfield, halias⟩, -⟩, hfunction⟩ := hl
    rw [SelectionItem.revise, reviseSubquery, result_columnText_field, result_columnText_field,
      SelectionItem.collect, detailCollect]
    exact .ok (h.aliasName halias (h.fieldText field function hfield hfunction))
  | .case { branches, default, aliasName }, hl => by
    simp only [SelectionItem.leaves, List.forall_mem_append] at hl
    obtain ⟨⟨hbranches, hdefault⟩, halias⟩ := hl
    rw [SelectionItem.revise, result_columnText_case, result_columnText_case, SelectionItem.collect]
    refine (h.conditionTexts_related scope branches hbranches).bind fun texts texts' ht => ?_
    refine (h.defaultText_related scope default hdefault).bind fun text text' hd => .ok ?_
    exact h.aliasName halias
      (h.assembly.caseText (h.assembly.joinFragments " " (by decide) ht) hd)

theorem conditionTexts_related (h : r.Respects c P B R) (scope : Scope) :
    (members : List Condition) → (∀ l ∈ conditionLeaves members, P l) →
      SameOutcome (RelatedAll R · · (conditionCollect c members))
        (conditionTexts scope members).result
        (conditionTexts scope (reviseConditions r members)).result
  | [], _ => .ok .nil
  | condition :: rest, hl => by
    simp only [conditionLeaves, List.forall_mem_append] at hl
    rw [reviseConditions, result_conditionTexts_cons, result_conditionTexts_cons, conditionCollect]
    refine (h.conditionText_related scope condition hl.1).bind fun text text' ht => ?_
    refine (h.conditionTexts_related scope rest hl.2).bind fun texts texts' hts => ?_
    exact .ok (.cons ht hts)

theorem conditionText_related (h : r.Respects c P B R) (scope : Scope) : (condition : Condition) →
    (∀ l ∈ condition.leaves, P l) →
      SameOutcome (R · · (condition.collect c)) (conditionText scope condition).result
        (conditionText scope (condition.revise r)).result
  | .group operand members, hl => by
    rw [Condition.revise, result_conditionText_group, result_conditionText_group, Condition.collect]
    refine (SameOutcome.nested scope).bind fun inner _ hi => ?_
    subst hi
    refine (h.conditionTexts_related inner members hl).bind fun texts texts' ht => .ok ?_
    exact h.assembly.prefixed operand (.single (h.assembly.parenthesized
      (h.assembly.joinFragments " " (by decide) ht)))
  | .comparison operand { clause, operator, datatype, isStatic, value, expectation }, hl => by
    simp only [Condition.leaves, List.forall_mem_append] at hl
    obtain ⟨⟨⟨⟨hclause, -⟩, -⟩, hvalue⟩, hexpectation⟩ := hl
    have hc := h.clauseText isStatic clause hclause
    rw [Condition.revise, result_conditionText_comparison, result_conditionText_comparison,
      Condition.collect]
    refine (h.expressionText_related scope _ _ operator datatype isStatic value hvalue).bind
      fun text text' ht => ?_
    match expectation with
    | none =>
      rw [typedValueCollect, List.append_nil]
      exact .ok (h.assembly.prefixed operand (.cons hc (.single ht)))
    | some ⟨value, datatype, isStatic⟩ =>
      rw [reviseTypedValue]
      exact (h.typedValueText_related scope value datatype isStatic hexpectation).bind
        fun result result' hr => .ok (h.assembly.branchText hc ht hr)

theorem expressionText_related (h : r.Respects c P B R) (scope : Scope)
    (clause clause' operator : String) (datatype : Option String) (isStatic : Bool) :
    (value : Option Value) → (∀ l ∈ valueLeaves datatype isStatic value, P l) →
      SameOutcome (R · · (expressionCollect c operator datatype isStatic value))
        (expressionText scope clause operator datatype isStatic value).result
        (expressionText scope clause' operator datatype (r.flag isStatic)
          (reviseValue r datatype isStatic value)).result
  | value, hl => by
    rw [result_expressionText, result_expressionText]
    match datatype, value with
    | some s, value =>
      -- A subquery with a datatype is not compiled; it is a value like the others.
      rw [expressionCollect_some, comparedCollect]
      cases Operator.parse operator with
      | error e => exact .ok h.assembly.empty
      | ok op =>
        have hname := h.assembly.name_operator op
        cases hd : Datatype.parse s with
        | error e =>
          simp only [hd, Datatype.ofSpelling?_eq_none hd]
          split <;> exact .ok hname
        | ok d =>
          simp only [hd, Datatype.ofSpelling?_eq_some hd]
          split
          · next hop =>
            have hnone : operandCollect c op d isStatic value = [] := by
              cases op <;> first | rfl | cases hop
            rw [hnone]
            exact .ok hname
          · exact .ok (h.rightHandSide op hd isStatic value hl)
    | none, some (.subquery query) =>
      rw [expressionCollect, takesSubquery, comparedCollect_none, reviseValue]
      cases Operator.parse operator with
      | error e => exact .ok h.assembly.empty
      | ok op =>
        cases hop : op.isNullary with
        | true =>
          simp only [hop]
          exact .ok (h.assembly.name_operator op)
        | false =>
          simp only [hop]
          refine (SameOutcome.nested scope).bind fun inner _ hi => ?_
          subst hi
          refine (h.markup_related inner query hl).bind fun text text' ht => .ok ?_
          exact h.assembly.applied op (h.assembly.parenthesized ht)
    | none, none | none, some (.literal _) | none, some (.range _ _) | none, some (.array _)
    | none, some (.call _) | none, some (.unsupported _) =>
      simp only [expressionCollect, comparedCollect_none, reviseValue]
      cases Operator.parse operator with
      | error e => exact .ok h.assembly.empty
      | ok op =>
        simp only
        split <;> exact .ok (h.assembly.name_operator op)

theorem defaultText_related (h : r.Respects c P B R) (scope : Scope) :
    (typed : Option TypedValue) → (∀ l ∈ typedValueLeaves typed, P l) →
      SameOutcome (R · · (typedValueCollect c typed)) (defaultText scope typed).result
        (defaultText scope (reviseTypedValue r typed)).result
  | none, _ => .ok h.assembly.empty
  | some ⟨value, datatype, isStatic⟩, hl => by
    rw [reviseTypedValue]
    exact h.typedValueText_related scope value datatype isStatic hl

theorem typedValueText_related (h : r.Respects c P B R) (scope : Scope) : (value : Option Value) →
    (datatype : Option String) → (isStatic : Bool) →
    (∀ l ∈ typedValueLeaves (some ⟨value, datatype, isStatic⟩), P l) →
      SameOutcome (R · · (typedValueCollect c (some ⟨value, datatype, isStatic⟩)))
        (typedValueText scope ⟨value, datatype, isStatic⟩).result
        (typedValueText scope ⟨reviseValue r datatype isStatic value, datatype,
          r.flag isStatic⟩).result
  | value, some s, isStatic, hl => by
    simp only [typedValueLeaves, List.forall_mem_append] at hl
    rw [result_typedValueText, result_typedValueText, typedValueCollect_some]
    match value with
    | none =>
      rw [reviseValue]
      cases Datatype.ofSpelling? (some s) <;> exact .ok h.assembly.empty
    | some value =>
      cases hd : Datatype.parse s with
      | error e =>
        obtain ⟨value', hv⟩ := reviseValue_some r (some s) isStatic value
        simp only [hd, hv, Datatype.ofSpelling?_eq_none hd]
        exact .ok h.assembly.empty
      | ok d =>
        obtain ⟨value', hv, hr⟩ := h.formatValue hd isStatic value hl.2
        simp only [hd, hv, Datatype.ofSpelling?_eq_some hd, Option.toList_some, List.flatMap_cons,
          List.flatMap_nil, List.append_nil]
        exact .ok hr
  | some (.subquery query), none, isStatic, hl => by
    simp only [typedValueLeaves, List.forall_mem_append] at hl
    rw [result_typedValueText, result_typedValueText, reviseValue, typedValueCollect]
    refine (SameOutcome.nested scope).bind fun inner _ hi => ?_
    subst hi
    exact (h.markup_related inner query hl.2).bind
      fun text text' ht => .ok (h.assembly.parenthesized ht)
  | none, none, isStatic, _ | some (.literal _), none, isStatic, _
  | some (.range _ _), none, isStatic, _ | some (.array _), none, isStatic, _
  | some (.call _), none, isStatic, _ | some (.unsupported _), none, isStatic, _ => by
    rw [reviseValue]
    exact .ok h.assembly.empty

end

/-- The statements are related before they are respaced, too. -/
theorem markup_unspaced (h : r.Respects c P B R) (scope : Scope) {q : Query}
    (hl : ∀ l ∈ q.leaves, P l) :
    SameOutcome
      (fun s t => ∃ a b, s = normalizeSpacing a ∧ t = normalizeSpacing b ∧ R a b (q.collect c))
      (markup scope q).result (markup scope (q.revise r)).result := by
  obtain ⟨table, selection, joins, conditions, groupBy, having, orderBy, limit, offset⟩ := q
  have hleaves := hl
  simp only [Query.leaves, List.cons_append, List.forall_mem_cons, List.forall_mem_append] at hl
  obtain ⟨-, ⟨⟨⟨⟨⟨⟨hsel, -⟩, hcond⟩, -⟩, hhav⟩, -⟩, -⟩, -⟩ := hl
  rw [Query.revise, result_markup, result_markup, Query.collect]
  refine (h.selectionTexts_related scope selection hsel).bind fun columns columns' hcolumns => ?_
  refine (h.filterText_related scope conditions hcond).bind fun conds conds' hconds => ?_
  refine (h.filterText_related scope having hhav).bind fun hav hav' hhavs => .ok ?_
  exact ⟨_, _, rfl, rfl, h.clauses_related hleaves hcolumns hconds hhavs⟩

/-! ## Unions -/

theorem markups_related (h : r.Respects c P B R) (limit : Nat) (members : List Query)
    (hl : ∀ q ∈ members, ∀ l ∈ q.leaves, P l) :
    SameOutcome (RelatedAll R · · (members.flatMap (Query.collect c)))
      (markups limit members).result (markups limit (members.map (Query.revise r))).result := by
  induction members with
  | nil => exact .ok .nil
  | cons q members ih =>
    rw [List.map_cons, result_markups_cons, result_markups_cons]
    refine (h.markup_related _ q (hl q List.mem_cons_self)).bind fun text text' ht => ?_
    refine (ih fun q hq => hl q (List.mem_cons_of_mem _ hq)).bind fun texts texts' hts => ?_
    exact .ok (.cons ht hts)

/-- The statements of two unions are related, member by member. -/
theorem unionMarkup_related (h : r.Respects c P B R) (limit : Nat) {members : List Query}
    (hne : members ≠ []) (hl : ∀ q ∈ members, ∀ l ∈ q.leaves, P l) :
    SameOutcome (R · · (members.flatMap (Query.collect c)))
      (unionMarkup limit members).result
      (unionMarkup limit (members.map (Query.revise r))).result := by
  rw [result_unionMarkup limit hne, result_unionMarkup limit (by simpa using hne)]
  refine (h.markups_related limit members hl).bind fun texts texts' ht => ?_
  exact .ok (h.assembly.intercalate " UNION " (by decide) ht)

end Revision.Respects

end QuerySql
