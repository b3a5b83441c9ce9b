import QuerySql.Proofs.Documents

/-!
# Queries that are read

What holds of a document holds of every query that is read from it, since a query has nothing in
it that the document does not have. So the assumptions on the leaves of a query can be dropped for
queries that are read.

* `Json.Admitted.reading`: it holds of all that a value can be read as.
* `Query.admitted_of_parse`, `Query.admitted_of_parseUnion`: it holds of the queries of a document.
-/

namespace QuerySql

open Compile

/-! ## Parts of a query -/

/-- Whatever flag a call is given, its leaves are admitted. -/
def FunctionCall.Admitted (call : FunctionCall) : Prop :=
  ∀ isStatic, ∀ l ∈ call.leaves isStatic, l.Admitted

def Clause.Admitted (clause : Clause) : Prop := ∀ isStatic, ∀ l ∈ clause.leaves isStatic, l.Admitted

/-- Whatever datatype and flag a value is given, its leaves are admitted: in a document they can
come after the value. -/
def Value.Admitted (value : Value) : Prop :=
  ∀ datatype isStatic, ∀ l ∈ valueLeaves datatype isStatic (some value), l.Admitted

structure TypedValue.Admitted (typed : TypedValue) : Prop where
  value : ∀ v ∈ typed.value, v.Admitted
  datatype : ∀ s ∈ typed.datatype, hasReserved s = false

structure Comparison.Admitted (comparison : Comparison) : Prop where
  clause : ∀ c ∈ comparison.clause, c.Admitted
  operator : hasReserved comparison.operator = false
  datatype : ∀ s ∈ comparison.datatype, hasReserved s = false
  value : ∀ v ∈ comparison.value, v.Admitted
  expectation : ∀ t ∈ comparison.expectation, t.Admitted

def Condition.Admitted (condition : Condition) : Prop := ∀ l ∈ condition.leaves, l.Admitted

structure ConditionDraft.Admitted (draft : ConditionDraft) : Prop where
  comparison : draft.comparison.Admitted
  members : ∀ ms ∈ draft.members, ∀ c ∈ ms, c.Admitted

def SelectionItem.Admitted (item : SelectionItem) : Prop := ∀ l ∈ item.leaves, l.Admitted

/-- What holds of a query that is read. -/
def Query.Admitted (q : Query) : Prop := ∀ l ∈ q.leaves, l.Admitted

structure SelectionDetail.Admitted (detail : SelectionDetail) : Prop where
  field : ∀ s ∈ detail.field, hasReserved s = false
  aliasName : ∀ s ∈ detail.aliasName, hasReserved s = false
  subquery : ∀ q ∈ detail.subquery, q.Admitted
  function : ∀ f ∈ detail.function, f.Admitted

structure CaseExpression.Admitted (case : CaseExpression) : Prop where
  branches : ∀ c ∈ case.branches, c.Admitted
  default : ∀ t ∈ case.default, t.Admitted
  aliasName : ∀ s ∈ case.aliasName, hasReserved s = false

structure Join.Admitted (join : Join) : Prop where
  table : hasReserved join.table = false
  on : ∀ p ∈ join.on, hasReserved p.1 = false ∧ hasReserved p.2 = false

/-- What holds of the parts of a query while it is read. -/
structure Query.PartsAdmitted (q : Query) : Prop where
  table : hasReserved q.table = false
  selection : ∀ items ∈ q.selection, ∀ i ∈ items, i.Admitted
  joins : ∀ js ∈ q.joins, ∀ j ∈ js, j.Admitted
  conditions : ∀ cs ∈ q.conditions, ∀ c ∈ cs, c.Admitted
  groupBy : ∀ ns ∈ q.groupBy, ∀ n ∈ ns, hasReserved n = false
  having : ∀ cs ∈ q.having, ∀ c ∈ cs, c.Admitted
  orderBy : ∀ o ∈ q.orderBy, ∀ n ∈ o.fields, hasReserved n = false
  limit : ∀ b ∈ q.limit, (Leaf.bound b).Admitted
  offset : ∀ b ∈ q.offset, (Leaf.bound b).Admitted

theorem admitted_names {names : List String} (h : ∀ n ∈ names, hasReserved n = false) :
    ∀ l ∈ names.map Leaf.name, l.Admitted := by
  intro l hl
  obtain ⟨n, hn, rfl⟩ := List.mem_map.mp hl
  exact Leaf.admitted_name (h n hn)

theorem admitted_conditionLeaves {members : List Condition} (h : ∀ c ∈ members, c.Admitted) :
    ∀ l ∈ conditionLeaves members, l.Admitted := by
  induction members with
  | nil => exact fun l hl => absurd hl List.not_mem_nil
  | cons condition rest ih =>
    rw [List.forall_mem_cons] at h
    rw [conditionLeaves]
    exact List.forall_mem_append.mpr ⟨h.1, ih h.2⟩

theorem admitted_columnLeaves {items : List SelectionItem} (h : ∀ i ∈ items, i.Admitted) :
    ∀ l ∈ columnLeaves items, l.Admitted := by
  induction items with
  | nil => exact fun l hl => absurd hl List.not_mem_nil
  | cons item rest ih =>
    rw [List.forall_mem_cons] at h
    rw [columnLeaves]
    exact List.forall_mem_append.mpr ⟨h.1, ih h.2⟩

theorem admitted_filterLeaves {members : Option (List Condition)}
    (h : ∀ cs ∈ members, ∀ c ∈ cs, c.Admitted) : ∀ l ∈ filterLeaves members, l.Admitted := by
  cases members with
  | none => exact fun l hl => absurd hl List.not_mem_nil
  | some members => exact admitted_conditionLeaves (h members rfl)

theorem admitted_valueLeaves (datatype : Option String) (isStatic : Bool) {value : Option Value}
    (h : ∀ v ∈ value, v.Admitted) : ∀ l ∈ valueLeaves datatype isStatic value, l.Admitted := by
  cases value with
  | none => exact fun l hl => absurd hl List.not_mem_nil
  | some value => exact h value rfl datatype isStatic

theorem admitted_spellings {datatype : Option String}
    (h : ∀ s ∈ datatype, hasReserved s = false) :
    ∀ l ∈ datatype.toList.map Leaf.spelling, l.Admitted := by
  intro l hl
  obtain ⟨s, hs, rfl⟩ := List.mem_map.mp hl
  exact Leaf.admitted_spelling (h s (by simpa using hs))

theorem admitted_typedValueLeaves {typed : Option TypedValue} (h : ∀ t ∈ typed, t.Admitted) :
    ∀ l ∈ typedValueLeaves typed, l.Admitted := by
  cases typed with
  | none => exact fun l hl => absurd hl List.not_mem_nil
  | some typed =>
    obtain ⟨value, datatype, isStatic⟩ := typed
    have ht := h _ rfl
    rw [typedValueLeaves]
    exact List.forall_mem_append.mpr
      ⟨admitted_spellings ht.datatype, admitted_valueLeaves datatype isStatic ht.value⟩

theorem Comparison.Admitted.condition {comparison : Comparison} (h : comparison.Admitted)
    (operand : Option Operand) : (Condition.comparison operand comparison).Admitted := by
  obtain ⟨clause, operator, datatype, isStatic, value, expectation⟩ := comparison
  have hclause : ∀ l ∈ clause.toList.flatMap (Clause.leaves isStatic), l.Admitted := by
    intro l hl
    obtain ⟨c, hc, hl⟩ := List.mem_flatMap.mp hl
    exact h.clause c (by simpa using hc) isStatic l hl
  unfold Condition.Admitted
  simp only [Condition.leaves, List.forall_mem_append]
  exact ⟨⟨⟨⟨hclause, List.forall_mem_singleton.mpr (Leaf.admitted_spelling h.operator)⟩,
    admitted_spellings h.datatype⟩, admitted_valueLeaves datatype isStatic h.value⟩,
    admitted_typedValueLeaves h.expectation⟩

theorem SelectionDetail.Admitted.item {detail : SelectionDetail} (h : detail.Admitted) :
    (SelectionItem.detail detail).Admitted := by
  obtain ⟨field, aliasName, subquery, function⟩ := detail
  have hquery : ∀ l ∈ subqueryLeaves subquery, l.Admitted := by
    cases subquery with
    | none => exact fun l hl => absurd hl List.not_mem_nil
    | some query => exact h.subquery query rfl
  have hfunction : ∀ l ∈ function.toList.flatMap (FunctionCall.leaves true), l.Admitted := by
    intro l hl
    obtain ⟨f, hf, hl⟩ := List.mem_flatMap.mp hl
    exact h.function f (by simpa using hf) true l hl
  unfold SelectionItem.Admitted
  simp only [SelectionItem.leaves, List.forall_mem_append]
  exact ⟨⟨⟨admitted_names fun s hs => h.field s (by simpa using hs),
    admitted_names fun s hs => h.aliasName s (by simpa using hs)⟩, hquery⟩, hfunction⟩

theorem CaseExpression.Admitted.item {case : CaseExpression} (h : case.Admitted) :
    (SelectionItem.case case).Admitted := by
  obtain ⟨branches, default, aliasName⟩ := case
  unfold SelectionItem.Admitted
  simp only [SelectionItem.leaves, List.forall_mem_append]
  exact ⟨⟨admitted_conditionLeaves h.branches, admitted_typedValueLeaves h.default⟩,
    admitted_names fun s hs => h.aliasName s (by simpa using hs)⟩

theorem ConditionDraft.Admitted.finish {draft : ConditionDraft} (h : draft.Admitted) :
    draft.finish.Admitted := by
  obtain ⟨operand, comparison, members⟩ := draft
  cases members with
  | none => exact h.comparison.condition operand
  | some members =>
    unfold Condition.Admitted
    rw [ConditionDraft.finish, Condition.leaves]
    exact admitted_conditionLeaves (h.members members rfl)

theorem Join.Admitted.leaves {join : Join} (h : join.Admitted) :
    ∀ l ∈ join.leaves, l.Admitted := by
  refine List.forall_mem_cons.mpr ⟨Leaf.admitted_name h.table, fun l hl => ?_⟩
  obtain ⟨p, hp, hl⟩ := List.mem_flatMap.mp hl
  obtain ⟨hleft, hright⟩ := h.on p hp
  have hpair : ∀ l ∈ [Leaf.name p.1, Leaf.name p.2], l.Admitted :=
    List.forall_mem_cons.mpr
      ⟨Leaf.admitted_name hleft, List.forall_mem_singleton.mpr (Leaf.admitted_name hright)⟩
  exact hpair l hl

theorem Query.PartsAdmitted.query {q : Query} (h : q.PartsAdmitted) : q.Admitted := by
  obtain ⟨table, selection, joins, conditions, groupBy, having, orderBy, limit, offset⟩ := q
  have hselection : ∀ l ∈ selectionLeaves selection, l.Admitted := by
    cases selection with
    | none => exact fun l hl => absurd hl List.not_mem_nil
    | some items => exact admitted_columnLeaves (h.selection items rfl)
  have hjoins : ∀ l ∈ (joins.getD []).flatMap Join.leaves, l.Admitted := by
    intro l hl
    cases joins with
    | none => exact absurd hl List.not_mem_nil
    | some joins =>
      obtain ⟨join, hjoin, hl⟩ := List.mem_flatMap.mp hl
      exact (h.joins joins rfl join hjoin).leaves l hl
  have hgroup : ∀ n ∈ groupBy.getD [], hasReserved n = false := by
    cases groupBy with
    | none => exact fun n hn => absurd hn List.not_mem_nil
    | some names => exact h.groupBy names rfl
  have horder : ∀ n ∈ orderBy.toList.flatMap SortOrder.fields, hasReserved n = false := by
    intro n hn
    obtain ⟨order, horder, hn⟩ := List.mem_flatMap.mp hn
    exact h.orderBy order (by simpa using horder) n hn
  have hbound : ∀ {bound : Option RowBound}, (∀ b ∈ bound, (Leaf.bound b).Admitted) →
      ∀ l ∈ bound.toList.map Leaf.bound, l.Admitted := by
    intro bound hb l hl
    obtain ⟨b, hmem, rfl⟩ := List.mem_map.mp hl
    exact hb b (by simpa using hmem)
  unfold Query.Admitted
  simp only [Query.leaves, List.cons_append, List.forall_mem_cons, List.forall_mem_append]
  exact ⟨Leaf.admitted_name h.table, ⟨⟨⟨⟨⟨⟨hselection, hjoins⟩, admitted_filterLeaves h.conditions⟩,
    admitted_names hgroup⟩, admitted_filterLeaves h.having⟩, admitted_names horder⟩,
    hbound h.limit⟩, hbound h.offset⟩

/-! ## Records without queries in them -/

theorem Json.Admitted.node {j : Json} (h : j.Admitted) :
    (∀ i ∈ j.node.items, i.Admitted) ∧ ∀ m ∈ j.node.members, m.2.Admitted := by
  cases j with
  | arr items => exact ⟨h.item, fun m hm => absurd hm List.not_mem_nil⟩
  | obj members => exact ⟨fun i hi => absurd hi List.not_mem_nil, fun m hm => (h.member m hm).2⟩
  | _ => exact ⟨fun i hi => absurd hi List.not_mem_nil, fun m hm => absurd hm List.not_mem_nil⟩

theorem Number.Representable.toNat?_lt {n : Number} (h : n.Representable) {rows : Nat}
    (hn : n.toNat? = some rows) : rows < Word64.count := by
  cases n with
  | float x => cases hn
  | integer n =>
    have hlt := h.2
    simp only [Number.toNat?, Option.ite_none_right_eq_some, Option.some.injEq] at hn
    omega

namespace Json.Admitted

variable {j : Json} (h : j.Admitted)

include h

theorem join : Returns Join.Admitted (Join.ofJson j) := by
  refine Record.returns_read ⟨by decide, fun p hp => absurd hp List.not_mem_nil⟩
    h.node.1 h.node.2 ?_
  simp only [Join.record, List.forall_mem_cons]
  refine ⟨fun p s hp hs => ?_, fun p s _ hs => ?_, fun p s hp hs => ?_, fun f hf => ?_⟩
  · exact hp.string.bind fun a ha => .ok { hs with table := ha }
  · exact (Returns.trivial _).bind fun a _ => .ok { hs with }
  · exact hp.stringMap.bind fun a ha => .ok { hs with on := ha }
  · exact absurd hf List.not_mem_nil

theorem joins : Returns (fun js => ∀ j ∈ js, Join.Admitted j) (Join.listOfJson j) := by
  cases j with
  | arr items => exact .mapM fun item hitem => (h.item item hitem).join
  | _ => exact .error _ _

theorem grouping : Returns (fun ns => ∀ n ∈ ns, hasReserved n = false) (groupingOfJson j) := by
  refine Record.returns_read (fun n hn => absurd hn List.not_mem_nil) h.node.1 h.node.2 ?_
  simp only [groupingRecord, List.forall_mem_singleton]
  exact fun p s hp _ => hp.strings

theorem sortOrder :
    Returns (fun o => ∀ n ∈ o.fields, hasReserved n = false) (SortOrder.ofJson j) := by
  refine Record.returns_read (fun n hn => absurd hn List.not_mem_nil) h.node.1 h.node.2 ?_
  simp only [SortOrder.record, List.forall_mem_cons]
  refine ⟨fun p s hp _ => ?_, fun p s _ hs => ?_, fun f hf => ?_⟩
  · exact hp.strings.bind fun a ha => .ok ha
  · exact (Returns.trivial _).bind fun a _ => .ok hs
  · exact absurd hf List.not_mem_nil

theorem rowBound : Returns (fun b => (Leaf.bound b).Admitted) (RowBound.ofJson j) := by
  unfold RowBound.ofJson
  split
  · split
    · exact .ok ⟨rfl, trivial⟩
    · exact .error _ _
  · split
    · next members rows hrows =>
      obtain ⟨value, hvalue, hrows⟩ := Option.bind_eq_some_iff.mp hrows
      refine .ok ⟨rfl, ?_⟩
      cases (h.lookup hvalue).numeric with
      | num hn => exact hn.toNat?_lt hrows
      | _ => cases hrows
    · exact .error _ _
  · exact .error _ _

end Json.Admitted

/-! ## The readings of a value -/

/-- All that the value can be read as is admitted. -/
structure Reading.Admitted (r : Reading) : Prop where
  json : r.json.Admitted
  query : Returns Query.Admitted r.query
  selectionItem : Returns SelectionItem.Admitted r.selectionItem
  selection : Returns (fun items => ∀ i ∈ items, i.Admitted) r.selection
  condition : Returns Condition.Admitted r.condition
  conditions : Returns (fun members => ∀ c ∈ members, c.Admitted) r.conditions
  typedValue : Returns TypedValue.Admitted r.typedValue
  value : Returns Value.Admitted r.value
  call : Returns FunctionCall.Admitted r.call

/-- The value is admitted, and so is all that its parts can be read as. -/
structure Node.Admitted (n : Node Reading) : Prop where
  json : n.json.Admitted
  items : ∀ r ∈ n.items, r.Admitted
  members : ∀ m ∈ n.members, m.2.Admitted

theorem FunctionCall.admitted_mk {name : String} (isField : Bool) {params : List Json}
    (hname : hasReserved name = false) (hparams : ∀ j ∈ params, j.Admitted) :
    (FunctionCall.mk name isField params).Admitted := by
  intro isStatic
  refine List.forall_mem_cons.mpr ⟨Leaf.admitted_name hname, fun l hl => ?_⟩
  obtain ⟨j, hj, rfl⟩ := List.mem_map.mp hl
  cases isField with
  | true => exact (hparams j hj).field
  | false => exact (hparams j hj).literal isStatic

theorem Reading.Admitted.clause {r : Reading} (h : r.Admitted) :
    Returns Clause.Admitted (Clause.ofReading r) := by
  unfold Clause.ofReading
  split
  · next name hname =>
    have hjson := h.json
    rw [hname] at hjson
    exact .ok fun _ => List.forall_mem_singleton.mpr (Leaf.admitted_name hjson.hasReserved_eq)
  · exact h.call.map fun call hcall => hcall
  · exact .error _ _

namespace Node.Admitted

variable {n : Node Reading} (h : n.Admitted)

include h

theorem lookup {key : String} {r : Reading} (hl : n.members.lookup key = some r) : r.Admitted := by
  obtain ⟨before, after, hmembers, -⟩ := List.lookup_eq_some_iff.mp hl
  exact h.members (key, r) (by simp [hmembers])

theorem sequence {α : Type} {P : α → Prop} {read : Reading → Except ShapeError α}
    (hread : ∀ r, r.Admitted → Returns P (read r)) :
    Returns (fun xs => ∀ x ∈ xs, P x) (n.sequence read) := by
  unfold Node.sequence
  split
  · exact .mapM fun r hr => hread r (h.items r hr)
  · exact .error _ _

theorem query : Returns Query.Admitted (Query.ofNode n) := by
  -- The fields are read one at a time, so what each keeps is said of the parts.
  have hparts : Returns Query.PartsAdmitted (Query.ofNode n) := by
    refine Record.returns_read ⟨by decide, by simp, by simp, by simp, by simp, by simp, by simp,
      by simp, by simp⟩ h.items h.members ?_
    simp only [Query.record, List.forall_mem_cons]
    refine ⟨fun r q hr hq => ?_, fun r q hr hq => ?_, fun r q hr hq => ?_, fun r q hr hq => ?_,
      fun r q hr hq => ?_, fun r q hr hq => ?_, fun r q hr hq => ?_, fun r q hr hq => ?_,
      fun r q hr hq => ?_, fun f hf => absurd hf List.not_mem_nil⟩
    · exact hr.json.string.bind fun a ha => .ok { hq with table := ha }
    · exact (hr.json.nullable hr.selection).bind fun a ha => .ok { hq with selection := ha }
    · exact (hr.json.nullable hr.json.joins).bind fun a ha => .ok { hq with joins := ha }
    · exact (hr.json.nullable hr.conditions).bind fun a ha => .ok { hq with conditions := ha }
    · exact (hr.json.nullable hr.json.grouping).bind fun a ha => .ok { hq with groupBy := ha }
    · exact (hr.json.nullable hr.conditions).bind fun a ha => .ok { hq with having := ha }
    · exact (hr.json.nullable hr.json.sortOrder).bind fun a ha => .ok { hq with orderBy := ha }
    · exact (hr.json.nullable hr.json.rowBound).bind fun a ha => .ok { hq with limit := ha }
    · exact (hr.json.nullable hr.json.rowBound).bind fun a ha => .ok { hq with offset := ha }
  exact fun q hq => (hparts q hq).query

theorem selectionDetail : Returns SelectionDetail.Admitted (SelectionDetail.record.read {} n) := by
  refine Record.returns_read ⟨by simp, by simp, by simp, by simp⟩ h.items h.members ?_
  simp only [SelectionDetail.record, List.forall_mem_cons]
  refine ⟨fun r s hr hs => ?_, fun r s hr hs => ?_, fun r s hr hs => ?_, fun r s hr hs => ?_,
    fun f hf => absurd hf List.not_mem_nil⟩
  · exact hr.json.string?.bind fun a ha => .ok { hs with field := ha }
  · exact hr.json.string?.bind fun a ha => .ok { hs with aliasName := ha }
  · exact (hr.json.nullable hr.query).bind fun a ha => .ok { hs with subquery := ha }
  · exact (hr.json.nullable hr.call).bind fun a ha => .ok { hs with function := ha }

theorem caseExpression : Returns CaseExpression.Admitted (CaseExpression.record.read {} n) := by
  refine Record.returns_read ⟨by simp, by simp, by simp⟩ h.items h.members ?_
  simp only [CaseExpression.record, List.forall_mem_cons]
  refine ⟨fun r s hr hs => ?_, fun r s hr hs => ?_, fun r s hr hs => ?_,
    fun f hf => absurd hf List.not_mem_nil⟩
  · exact hr.conditions.bind fun a ha => .ok { hs with branches := ha }
  · exact (hr.json.nullable hr.typedValue).bind fun a ha => .ok { hs with default := ha }
  · exact hr.json.string?.bind fun a ha => .ok { hs with aliasName := ha }

theorem selectionItem : Returns SelectionItem.Admitted (SelectionItem.ofNode n) := by
  unfold SelectionItem.ofNode
  split
  · next name hname =>
    have hjson := h.json
    rw [hname] at hjson
    refine .ok ?_
    unfold SelectionItem.Admitted
    rw [SelectionItem.leaves]
    exact List.forall_mem_singleton.mpr (Leaf.admitted_name hjson.hasReserved_eq)
  · split
    · exact h.caseExpression.map fun case hcase => hcase.item
    · exact h.selectionDetail.map fun detail hdetail => hdetail.item
  · exact .error _ _

theorem typedValue : Returns TypedValue.Admitted (TypedValue.ofNode n) := by
  refine Record.returns_read ⟨by simp, by simp⟩ h.items h.members ?_
  simp only [TypedValue.record, List.forall_mem_cons]
  refine ⟨fun r s hr hs => ?_, fun r s hr hs => ?_, fun r s hr hs => ?_,
    fun f hf => absurd hf List.not_mem_nil⟩
  · exact (hr.json.nullable hr.value).bind fun a ha => .ok { hs with value := ha }
  · exact hr.json.string?.bind fun a ha => .ok { hs with datatype := ha }
  · exact (Returns.trivial _).bind fun a _ => .ok { hs with }

theorem condition : Returns Condition.Admitted (Condition.ofNode n) := by
  have hempty : hasReserved "" = false := by decide
  have hdraft : Returns ConditionDraft.Admitted (ConditionDraft.record.read {} n) := by
    refine Record.returns_read ⟨⟨by simp, hempty, by simp, by simp, by simp⟩, by simp⟩
      h.items h.members ?_
    simp only [ConditionDraft.record, List.forall_mem_cons]
    refine ⟨fun r s hr hs => ?_, fun r s hr hs => ?_, fun r s hr hs => ?_, fun r s hr hs => ?_,
      fun r s hr hs => ?_, fun r s hr hs => ?_, fun r s hr hs => ?_, fun r s hr hs => ?_,
      fun f hf => absurd hf List.not_mem_nil⟩
    · exact (Returns.trivial _).bind fun a _ => .ok { hs with }
    · exact (hr.json.nullable hr.clause).bind fun a ha =>
        .ok { hs with comparison := { hs.comparison with clause := ha } }
    · refine hr.json.string?.bind fun a ha =>
        .ok { hs with comparison := { hs.comparison with operator := ?_ } }
      cases a with
      | none => exact hempty
      | some s => exact ha s rfl
    · exact hr.json.string?.bind fun a ha =>
        .ok { hs with comparison := { hs.comparison with datatype := ha } }
    · exact (Returns.trivial _).bind fun a _ =>
        .ok { hs with comparison := { hs.comparison with } }
    · exact (hr.json.nullable hr.value).bind fun a ha =>
        .ok { hs with comparison := { hs.comparison with value := ha } }
    · exact (hr.json.nullable hr.conditions).bind fun a ha => .ok { hs with members := ha }
    · exact (hr.json.nullable hr.typedValue).bind fun a ha =>
        .ok { hs with comparison := { hs.comparison with expectation := ha } }
  exact hdraft.map fun draft hd => hd.finish

theorem call : Returns FunctionCall.Admitted (FunctionCall.ofNode n) := by
  have hjson := h.json
  unfold FunctionCall.ofNode
  split
  · next members hmembers =>
    rw [hmembers] at hjson
    split
    -- A call in a wrapper is one that a part has been read as.
    · next inner hinner => exact (h.lookup hinner).call
    · split
      · next name hname =>
        refine .ok (FunctionCall.admitted_mk _ (hjson.lookup hname).hasReserved_eq ?_)
        split
        · next params hparams => exact (hjson.lookup hparams).item
        · exact fun j hj => absurd hj List.not_mem_nil
        · exact fun j hj => absurd hj List.not_mem_nil
        · next param hparam => exact List.forall_mem_singleton.mpr (hjson.lookup hparam)
      · exact .error _ _
  · exact .error _ _

theorem value : Returns Value.Admitted (Value.ofNode n) := by
  have hjson := h.json
  unfold Value.ofNode
  split
  · next items hitems =>
    rw [hitems] at hjson
    refine .ok fun datatype isStatic => ?_
    rw [valueLeaves]
    intro l hl
    obtain ⟨j, hj, rfl⟩ := List.mem_map.mp hl
    exact (hjson.item j hj).literal isStatic
  · next members hmembers =>
    have hobject := hjson
    rw [hmembers] at hjson
    split
    · next inner hinner =>
      refine (h.lookup hinner).query.map fun q hq datatype isStatic => ?_
      rw [valueLeaves]
      exact hq
    · split
      · refine h.call.map fun call hcall datatype isStatic => ?_
        rw [valueLeaves]
        exact hcall isStatic
      · split
        · refine .ok fun datatype isStatic => ?_
          rw [valueLeaves]
          exact List.forall_mem_singleton.mpr hobject.object
        · refine .ok fun datatype isStatic => ?_
          rw [valueLeaves]
          intro l hl
          obtain ⟨j, hj, rfl⟩ := List.mem_map.mp hl
          have hends : j.Admitted := by
            rcases List.mem_append.mp hj with hj | hj
            · exact hjson.lookup (Option.mem_toList.mp hj)
            · exact hjson.lookup (Option.mem_toList.mp hj)
          exact hends.scalar datatype isStatic
  · refine .ok fun datatype isStatic => ?_
    rw [valueLeaves]
    exact List.forall_mem_singleton.mpr (hjson.scalar datatype isStatic)

theorem reading : (Reading.ofNode n).Admitted where
  json := h.json
  query := h.query
  selectionItem := h.selectionItem
  selection := h.sequence fun _ hr => hr.selectionItem
  condition := h.condition
  conditions := h.sequence fun _ hr => hr.condition
  typedValue := h.typedValue
  value := h.value
  call := h.call

end Node.Admitted

mutual

/-- All that an admitted value can be read as is admitted. -/
theorem Json.Admitted.reading : ∀ {j : Json}, j.Admitted → j.reading.Admitted
  | .arr items, h => by
    rw [Json.reading]
    exact Node.Admitted.reading
      ⟨h, Json.admitted_itemReadings h.item, fun m hm => absurd hm List.not_mem_nil⟩
  | .obj members, h => by
    rw [Json.reading]
    exact Node.Admitted.reading ⟨h, fun r hr => absurd hr List.not_mem_nil,
      Json.admitted_memberReadings fun m hm => (h.member m hm).2⟩
  | .null, h | .bool _, h | .num _, h | .str _, h => by
    rw [Json.reading]
    exact Node.Admitted.reading
      ⟨h, fun r hr => absurd hr List.not_mem_nil, fun m hm => absurd hm List.not_mem_nil⟩

theorem Json.admitted_itemReadings : ∀ {items : List Json}, (∀ j ∈ items, j.Admitted) →
    ∀ r ∈ Json.itemReadings items, r.Admitted
  | [], _ => fun r hr => absurd hr List.not_mem_nil
  | item :: rest, h => by
    rw [List.forall_mem_cons] at h
    rw [Json.itemReadings]
    exact List.forall_mem_cons.mpr ⟨h.1.reading, Json.admitted_itemReadings h.2⟩

theorem Json.admitted_memberReadings : ∀ {members : List (String × Json)},
    (∀ m ∈ members, m.2.Admitted) → ∀ m ∈ Json.memberReadings members, m.2.Admitted
  | [], _ => fun m hm => absurd hm List.not_mem_nil
  | (key, value) :: rest, h => by
    rw [List.forall_mem_cons] at h
    rw [Json.memberReadings]
    exact List.forall_mem_cons.mpr ⟨h.1.reading, Json.admitted_memberReadings h.2⟩

end

/-! ## Documents -/

theorem Compile.Returns.mapError {ε ε' α : Type} {P : α → Prop} {x : Except ε α} (f : ε → ε')
    (h : Returns P x) : Returns P (x.mapError f) := by
  cases x with
  | error e => exact .error P (f e)
  | ok a => exact .ok (h a rfl)

theorem Json.returns_checkReserved (j : Json) :
    Returns (fun _ => j.reserved? = none) j.checkReserved := by
  unfold Json.checkReserved
  split
  · exact .error _ _
  · next hr => exact .ok hr

/-- A query that is read from a document is admitted. -/
theorem Query.admitted_of_parse (text : String) : Returns Query.Admitted (Query.parse text) := by
  have hparse : Returns (fun j => Json.parse text = .ok j) (Json.parse text) := fun j hj => hj
  refine hparse.bind fun j hj => j.returns_checkReserved.bind fun _ hr => ?_
  exact (Json.admitted_of_parse hj hr).reading.query.mapError _

/-- The members of a union that is read from a document are admitted. -/
theorem Query.admitted_of_parseUnion (text : String) :
    Returns (fun qs => ∀ q ∈ qs, q.Admitted) (Query.parseUnion text) := by
  have hparse : Returns (fun j => Json.parse text = .ok j) (Json.parse text) := fun j hj => hj
  refine hparse.bind fun j hj => ?_
  cases j with
  | arr items =>
    refine (Json.returns_checkReserved _).bind fun _ hr => Returns.mapError _ (.mapM ?_)
    exact fun item hitem => ((Json.admitted_of_parse hj hr).item item hitem).reading.query
  | _ => exact .error _ _

theorem Query.Admitted.unreserved {q : Query} (h : q.Admitted) : q.Unreserved :=
  fun l hl => (h l hl).unreserved

theorem Query.Admitted.representable {q : Query} (h : q.Admitted) : q.Representable :=
  fun l hl => (h l hl).representable

end QuerySql
