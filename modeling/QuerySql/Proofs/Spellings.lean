import Mathlib.Logic.Relation
import QuerySql.Proofs.Walks
import QuerySql.Validation

/-!
# Spellings in a query

A query is a tree of parts: selected items, conditions, typed values and further queries. Operators
and datatypes are spelled in its comparisons and typed values. The check of a query goes over all of
them, parent before child, and its error is the first that is not known.

* `Part.children`: the parts that stand directly in a part, in the order of the walk.
* `Part.Within`: one part stands in another at any depth.
* `Part.spellings`: the spellings in a part, in the order of the walk.
* `Part.validate_eq_ok_iff`, `Part.validate_eq_error_iff`: what the check of a part says.
-/

namespace QuerySql

/-! ## Parts -/

/-- A part of a query. -/
inductive Part where
  | query (query : Query)
  | item (item : SelectionItem)
  | condition (condition : Condition)
  | typedValue (value : TypedValue)

/-- The subquery that a value is. -/
def Value.subquery? : Value → Option Query
  | .subquery query => some query
  | _ => none

/-- The parts that stand directly in a part: in a query the selected items, the conditions and the
conditions on groups, in a comparison its value and its expectation. -/
def Part.children : Part → List Part
  | .query q =>
    (q.selection.getD []).map .item ++ (q.conditions.getD []).map .condition ++
      (q.having.getD []).map .condition
  | .item (.column _) => []
  | .item (.detail detail) => detail.subquery.toList.map .query
  | .item (.case case) => case.branches.map .condition ++ case.default.toList.map .typedValue
  | .condition (.group _ members) => members.map .condition
  | .condition (.comparison _ comparison) =>
    (comparison.value.bind Value.subquery?).toList.map .query ++
      comparison.expectation.toList.map .typedValue
  | .typedValue value => (value.value.bind Value.subquery?).toList.map .query

/-- One part stands in the other at any depth, or is it. -/
def Part.Within (part whole : Part) : Prop :=
  Relation.ReflTransGen (fun parent child => child ∈ parent.children) whole part

theorem sizeOf_lt_of_mem_getD {α : Type} [SizeOf α] {a : α} {as : Option (List α)}
    (h : a ∈ as.getD []) : sizeOf a < sizeOf as := by
  cases as with
  | none => cases h
  | some as =>
    have hmem : a ∈ as := h
    have := List.sizeOf_lt_of_mem hmem
    simp only [Option.some.sizeOf_spec]
    omega

theorem sizeOf_lt_of_mem_toList {α : Type} [SizeOf α] {a : α} {o : Option α}
    (h : a ∈ o.toList) : sizeOf a < sizeOf o := by
  cases o with
  | none => cases h
  | some b =>
    cases List.mem_singleton.mp h
    simp only [Option.some.sizeOf_spec]
    omega

theorem sizeOf_lt_of_mem_subquery? {query : Query} {value : Option Value}
    (h : query ∈ (value.bind Value.subquery?).toList) : sizeOf query < sizeOf value := by
  match value with
  | some (.subquery q) =>
    cases List.mem_singleton.mp h
    simp only [Option.some.sizeOf_spec, Value.subquery.sizeOf_spec]
    omega
  | none | some (.literal _) | some (.range _ _) | some (.array _) | some (.call _)
  | some (.unsupported _) => cases h

theorem Part.sizeOf_lt_of_mem_children {part child : Part} (h : child ∈ part.children) :
    sizeOf child < sizeOf part := by
  match part with
  | .query ⟨table, selection, joins, conditions, groupBy, having, orderBy, limit, offset⟩ =>
    simp only [Part.children, List.mem_append, List.mem_map] at h
    simp only [Part.query.sizeOf_spec, Query.mk.sizeOf_spec]
    rcases h with (⟨a, ha, rfl⟩ | ⟨a, ha, rfl⟩) | ⟨a, ha, rfl⟩
    · have := sizeOf_lt_of_mem_getD ha
      simp only [Part.item.sizeOf_spec]
      omega
    · have := sizeOf_lt_of_mem_getD ha
      simp only [Part.condition.sizeOf_spec]
      omega
    · have := sizeOf_lt_of_mem_getD ha
      simp only [Part.condition.sizeOf_spec]
      omega
  | .item (.column _) => cases h
  | .item (.detail ⟨field, aliasName, subquery, function⟩) =>
    obtain ⟨q, hq, rfl⟩ := List.mem_map.mp h
    have : sizeOf q < sizeOf subquery := sizeOf_lt_of_mem_toList hq
    simp only [Part.item.sizeOf_spec, Part.query.sizeOf_spec, SelectionItem.detail.sizeOf_spec,
      SelectionDetail.mk.sizeOf_spec]
    omega
  | .item (.case ⟨branches, default, aliasName⟩) =>
    simp only [Part.children, List.mem_append, List.mem_map] at h
    simp only [Part.item.sizeOf_spec, SelectionItem.case.sizeOf_spec, CaseExpression.mk.sizeOf_spec]
    rcases h with ⟨c, hc, rfl⟩ | ⟨v, hv, rfl⟩
    · have := List.sizeOf_lt_of_mem hc
      simp only [Part.condition.sizeOf_spec]
      omega
    · have := sizeOf_lt_of_mem_toList hv
      simp only [Part.typedValue.sizeOf_spec]
      omega
  | .condition (.group operand members) =>
    obtain ⟨c, hc, rfl⟩ := List.mem_map.mp h
    have := List.sizeOf_lt_of_mem hc
    simp only [Part.condition.sizeOf_spec, Condition.group.sizeOf_spec]
    omega
  | .condition (.comparison operand ⟨clause, operator, datatype, isStatic, value, expectation⟩) =>
    simp only [Part.children, List.mem_append, List.mem_map] at h
    simp only [Part.condition.sizeOf_spec, Condition.comparison.sizeOf_spec,
      Comparison.mk.sizeOf_spec]
    rcases h with ⟨q, hq, rfl⟩ | ⟨v, hv, rfl⟩
    · have := sizeOf_lt_of_mem_subquery? hq
      simp only [Part.query.sizeOf_spec]
      omega
    · have := sizeOf_lt_of_mem_toList hv
      simp only [Part.typedValue.sizeOf_spec]
      omega
  | .typedValue ⟨value, datatype, isStatic⟩ =>
    obtain ⟨q, hq, rfl⟩ := List.mem_map.mp h
    have : sizeOf q < sizeOf value := sizeOf_lt_of_mem_subquery? hq
    simp only [Part.query.sizeOf_spec, Part.typedValue.sizeOf_spec, TypedValue.mk.sizeOf_spec]
    omega

/-- What holds of a part whose children it holds of holds of all parts. -/
theorem Part.induction {P : Part → Prop}
    (step : ∀ part, (∀ child ∈ part.children, P child) → P part)
    (part : Part) : P part :=
  step part fun child _ => Part.induction step child
termination_by sizeOf part
decreasing_by exact Part.sizeOf_lt_of_mem_children ‹_›

/-! ## Spellings -/

/-- A spelling in a query. -/
inductive Spelling where
  | operator (spelling : String)
  | datatype (spelling : String)

/-- The spelling is, but for case and blanks, the name of an operator or of a datatype. -/
def Spelling.Known : Spelling → Prop
  | .operator s => ∃ o : Operator, o.name = canonicalSpelling s
  | .datatype s => ∃ d : Datatype, d.name = canonicalSpelling s

/-- The error of an unknown spelling. -/
def Spelling.error : Spelling → VocabularyError
  | .operator s => .invalidOperator s
  | .datatype s => .invalidDatatype s

/-- Looks a spelling up. -/
def Spelling.check : Spelling → Except VocabularyError Unit
  | .operator s => (Operator.parse s).map fun _ => ()
  | .datatype s => (Datatype.parse s).map fun _ => ()

/-- The spellings of a part, without those of its children. -/
def Part.ownSpellings : Part → List Spelling
  | .condition (.comparison _ comparison) =>
    .operator comparison.operator :: comparison.datatype.toList.map .datatype
  | .typedValue value => value.datatype.toList.map .datatype
  | .query _ | .item _ | .condition (.group _ _) => []

/-- The spellings in a part, its own before those of its children. -/
def Part.spellings (part : Part) : List Spelling :=
  part.ownSpellings ++ part.children.attach.flatMap fun child => child.val.spellings
termination_by sizeOf part
decreasing_by exact Part.sizeOf_lt_of_mem_children child.property

theorem Part.spellings_eq (part : Part) :
    part.spellings = part.ownSpellings ++ part.children.flatMap Part.spellings := by
  rw [Part.spellings, List.flatMap_subtype (fun _ _ => rfl), List.unattach_attach]

/-- The spellings in a part are those that stand anywhere in it. -/
theorem Part.mem_spellings_iff {part : Part} {s : Spelling} :
    s ∈ part.spellings ↔ ∃ inner : Part, inner.Within part ∧ s ∈ inner.ownSpellings := by
  induction part using Part.induction with
  | step part ih =>
    rw [Part.spellings_eq, List.mem_append, List.mem_flatMap]
    constructor
    · rintro (hown | ⟨child, hchild, hs⟩)
      · exact ⟨part, .refl, hown⟩
      · obtain ⟨inner, hinner, hown⟩ := (ih child hchild).mp hs
        exact ⟨inner, .head hchild hinner, hown⟩
    · rintro ⟨inner, hinner, hown⟩
      rcases hinner.cases_head with rfl | ⟨child, hchild, hinner⟩
      · exact .inl hown
      · exact .inr ⟨child, hchild, (ih child hchild).mpr ⟨inner, hinner, hown⟩⟩

/-- All spellings in a part are those of its comparisons and typed values. -/
theorem Part.forall_spellings_iff {part : Part} {P : Spelling → Prop} :
    (∀ s ∈ part.spellings, P s) ↔
      (∀ operand c, (Part.condition (.comparison operand c)).Within part →
        P (.operator c.operator) ∧ ∀ s ∈ c.datatype, P (.datatype s)) ∧
      ∀ v, (Part.typedValue v).Within part → ∀ s ∈ v.datatype, P (.datatype s) := by
  have hown : (∀ s ∈ part.spellings, P s) ↔
      ∀ inner : Part, inner.Within part → ∀ s ∈ inner.ownSpellings, P s := by
    simp only [Part.mem_spellings_iff, forall_exists_index, and_imp]
    exact ⟨fun h inner hinner s hs => h s inner hinner hs,
      fun h s inner hinner hs => h inner hinner s hs⟩
  rw [hown]
  constructor
  · intro h
    refine ⟨fun operand c hc => ?_, fun v hv => ?_⟩
    · simpa [Part.ownSpellings] using h _ hc
    · simpa [Part.ownSpellings] using h _ hv
  · rintro ⟨hcomparison, hvalue⟩ inner hinner
    match inner with
    | .condition (.comparison operand c) =>
      simpa [Part.ownSpellings] using hcomparison operand c hinner
    | .typedValue v => simpa [Part.ownSpellings] using hvalue v hinner
    | .query _ | .item _ | .condition (.group _ _) => exact fun s hs => nomatch hs

/-! ## The check of a part -/

section Errors

variable {ε α β : Type}

theorem forM_flatMap (f : β → Except ε Unit) (g : α → List β) (xs : List α) :
    forM (xs.flatMap g) f = forM xs fun x => forM (g x) f := by
  induction xs with
  | nil => rfl
  | cons x xs ih => rw [List.flatMap_cons, List.forM_append, List.forM_cons, ih]

theorem forM_congr_mem {f g : α → Except ε Unit} {xs : List α} (h : ∀ x ∈ xs, f x = g x) :
    forM xs f = forM xs g := by
  induction xs with
  | nil => rfl
  | cons x xs ih =>
    rw [List.forall_mem_cons] at h
    rw [List.forM_cons, List.forM_cons, h.1, ih h.2]

/-- A run of checks ends with the first refusal. -/
theorem forM_eq_error_iff {f : α → Except ε Unit} {xs : List α} {e : ε} :
    forM xs f = .error e ↔ ∃ x, FirstOf (fun y => f y ≠ .ok ()) xs x ∧ f x = .error e := by
  induction xs with
  | nil =>
    constructor
    · intro h
      cases h
    · rintro ⟨x, hx, -⟩
      exact absurd hx not_firstOf_nil
  | cons y xs ih =>
    simp only [List.forM_cons, firstOf_cons_iff]
    cases hy : f y with
    | error e' =>
      constructor
      · intro h
        cases h
        exact ⟨y, .inl ⟨by simp, rfl⟩, hy⟩
      · rintro ⟨x, ⟨-, rfl⟩ | ⟨hne, -⟩, hx⟩
        · rw [← hy, hx]
          rfl
        · exact absurd (by simp) hne
    | ok a =>
      change forM xs f = _ ↔ _
      rw [ih]
      constructor
      · rintro ⟨x, hfirst, hx⟩
        exact ⟨x, .inr ⟨by simp, hfirst⟩, hx⟩
      · rintro ⟨x, ⟨hne, -⟩ | ⟨-, hfirst⟩, hx⟩
        · exact absurd rfl hne
        · exact ⟨x, hfirst, hx⟩

theorem forM_eq_ok_iff {f : α → Except ε Unit} {xs : List α} :
    forM xs f = .ok () ↔ ∀ x ∈ xs, f x = .ok () := by
  induction xs with
  | nil => simp [pure, Except.pure]
  | cons x xs ih =>
    rw [List.forM_cons, List.forall_mem_cons, ← ih]
    cases f x with
    | error e => simp [bind, Except.bind]
    | ok a => simp [bind, Except.bind]

end Errors

theorem Operator.mem_all (o : Operator) : o ∈ Operator.all := by
  cases o <;> decide

theorem Datatype.mem_all (d : Datatype) : d ∈ Datatype.all := by
  cases d <;> decide

theorem Operator.parse_cases (s : String) :
    (∃ o : Operator, o.name = canonicalSpelling s ∧ Operator.parse s = .ok o) ∨
      (¬ ∃ o : Operator, o.name = canonicalSpelling s) ∧
        Operator.parse s = .error (.invalidOperator s) := by
  rw [Operator.parse]
  cases h : Operator.all.find? (·.name == canonicalSpelling s) with
  | some o => exact .inl ⟨o, by simpa using List.find?_some h, rfl⟩
  | none =>
    refine .inr ⟨?_, rfl⟩
    rintro ⟨o, ho⟩
    exact absurd (beq_iff_eq.mpr ho) (List.find?_eq_none.mp h o o.mem_all)

theorem Datatype.parse_cases (s : String) :
    (∃ d : Datatype, d.name = canonicalSpelling s ∧ Datatype.parse s = .ok d) ∨
      (¬ ∃ d : Datatype, d.name = canonicalSpelling s) ∧
        Datatype.parse s = .error (.invalidDatatype s) := by
  rw [Datatype.parse]
  cases h : Datatype.all.find? (·.name == canonicalSpelling s) with
  | some d => exact .inl ⟨d, by simpa using List.find?_some h, rfl⟩
  | none =>
    refine .inr ⟨?_, rfl⟩
    rintro ⟨d, hd⟩
    exact absurd (beq_iff_eq.mpr hd) (List.find?_eq_none.mp h d d.mem_all)

/-- A known spelling passes, and the error of any other names it. -/
theorem Spelling.check_cases (s : Spelling) :
    s.Known ∧ s.check = .ok () ∨ ¬ s.Known ∧ s.check = .error s.error := by
  cases s with
  | operator s =>
    rw [Spelling.check]
    rcases Operator.parse_cases s with ⟨o, ho, h⟩ | ⟨hno, h⟩
    · exact .inl ⟨⟨o, ho⟩, by rw [h]; rfl⟩
    · exact .inr ⟨hno, by rw [h]; rfl⟩
  | datatype s =>
    rw [Spelling.check]
    rcases Datatype.parse_cases s with ⟨d, hd, h⟩ | ⟨hno, h⟩
    · exact .inl ⟨⟨d, hd⟩, by rw [h]; rfl⟩
    · exact .inr ⟨hno, by rw [h]; rfl⟩

theorem Spelling.check_eq_ok_iff {s : Spelling} : s.check = .ok () ↔ s.Known := by
  rcases s.check_cases with ⟨hs, h⟩ | ⟨hs, h⟩
  · simp [hs, h]
  · simp [hs, h]

theorem Spelling.check_eq_error {s : Spelling} (h : ¬ s.Known) : s.check = .error s.error := by
  rcases s.check_cases with ⟨hs, -⟩ | ⟨-, heq⟩
  · exact absurd hs h
  · exact heq

/-- The check of a part. -/
def Part.validate : Part → Except VocabularyError Unit
  | .query q => q.validate
  | .item i => i.validate
  | .condition c => c.validate
  | .typedValue v => v.validate

theorem validateItems_eq (items : List SelectionItem) :
    validateItems items = forM (items.map Part.item) Part.validate := by
  induction items with
  | nil => rfl
  | cons item items ih => rw [validateItems, List.map_cons, List.forM_cons, ih, Part.validate]

theorem validateConditions_eq (conditions : List Condition) :
    validateConditions conditions = forM (conditions.map Part.condition) Part.validate := by
  induction conditions with
  | nil => rfl
  | cons condition conditions ih =>
    rw [validateConditions, List.map_cons, List.forM_cons, ih, Part.validate]

theorem validateSelection_eq (selection : Option (List SelectionItem)) :
    validateSelection selection = forM ((selection.getD []).map Part.item) Part.validate := by
  cases selection with
  | none => rfl
  | some items => exact validateItems_eq items

theorem validateFilter_eq (filter : Option (List Condition)) :
    validateFilter filter = forM ((filter.getD []).map Part.condition) Part.validate := by
  cases filter with
  | none => rfl
  | some members => exact validateConditions_eq members

theorem validateTyped_eq (value : Option TypedValue) :
    validateTyped value = forM (value.toList.map Part.typedValue) Part.validate := by
  cases value with
  | none => rfl
  | some v => exact (bind_pure v.validate).symm

theorem validateValue_eq (value : Option Value) :
    validateValue value =
      forM ((value.bind Value.subquery?).toList.map Part.query) Part.validate := by
  cases value with
  | none => rfl
  | some value =>
    cases value with
    | subquery q => exact (bind_pure q.validate).symm
    | _ => rfl

theorem checkDatatype_eq (datatype : Option String) :
    checkDatatype datatype = forM (datatype.toList.map Spelling.datatype) Spelling.check := by
  cases datatype with
  | none => rfl
  | some s => exact (bind_pure (Spelling.datatype s).check).symm

/-- A part is checked by its own spellings, and then its children are. -/
theorem Part.validate_eq (part : Part) :
    part.validate =
      forM part.ownSpellings Spelling.check >>= fun _ => forM part.children Part.validate := by
  match part with
  | .query ⟨table, selection, joins, conditions, groupBy, having, orderBy, limit, offset⟩ =>
    simp only [Part.validate, Query.validate, validateSelection_eq, validateFilter_eq,
      Part.ownSpellings, Part.children, List.forM_append, List.forM_nil, bind_assoc, pure_bind]
  | .item (.column _) => rfl
  | .item (.detail ⟨field, aliasName, subquery, function⟩) =>
    cases subquery with
    | none => rfl
    | some q => exact (bind_pure q.validate).symm
  | .item (.case ⟨branches, default, aliasName⟩) =>
    simp only [Part.validate, SelectionItem.validate, validateConditions_eq, validateTyped_eq,
      Part.ownSpellings, Part.children, List.forM_append, List.forM_nil, pure_bind]
  | .condition (.group operand members) =>
    exact validateConditions_eq members
  | .condition (.comparison operand ⟨clause, operator, datatype, isStatic, value, expectation⟩) =>
    simp only [Part.validate, Condition.validate, checkDatatype_eq, validateValue_eq,
      validateTyped_eq, Part.ownSpellings, Part.children, List.forM_cons, List.forM_append,
      bind_assoc, Spelling.check]
    cases Operator.parse operator <;> rfl
  | .typedValue ⟨value, datatype, isStatic⟩ =>
    simp only [Part.validate, TypedValue.validate, checkDatatype_eq, validateValue_eq,
      Part.ownSpellings, Part.children]

/-- The check of a part goes over all spellings in it. -/
theorem Part.validate_eq_forM (part : Part) :
    part.validate = forM part.spellings Spelling.check := by
  induction part using Part.induction with
  | step part ih =>
    rw [Part.validate_eq, Part.spellings_eq, List.forM_append, forM_flatMap, forM_congr_mem ih]

theorem Part.validate_eq_ok_iff {part : Part} :
    part.validate = .ok () ↔ ∀ s ∈ part.spellings, s.Known := by
  simp only [Part.validate_eq_forM, forM_eq_ok_iff, Spelling.check_eq_ok_iff]

/-- The error is that of the first unknown spelling. -/
theorem Part.validate_eq_error_iff {part : Part} {e : VocabularyError} :
    part.validate = .error e ↔
      ∃ s, FirstOf (fun s => ¬ s.Known) part.spellings s ∧ s.error = e := by
  simp only [Part.validate_eq_forM, forM_eq_error_iff, ne_eq, Spelling.check_eq_ok_iff]
  refine exists_congr fun s => and_congr_right fun h => ?_
  obtain ⟨-, -, -, hs, -⟩ := h
  rw [Spelling.check_eq_error hs, Except.error.injEq]

end QuerySql
