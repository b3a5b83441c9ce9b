import QuerySql.Proofs.Compilation

/-!
# The limit of depth

A group of conditions and a subquery are one level deeper than what they stand in. A compilation
stops at the limit of depth exactly if some path through the query has more levels than that, and
for no other reason. Where it does not stop, its text has nothing to do with the limit.

* `Query.nest`: the number of levels on the longest path.
* `Limited n c`: the part `c` of a compilation has `n` levels.
* `limited_markup`: the compilation of a query has the levels of the query.
* `depth_limit_exact`: what this says of the calls of a compiler.
-/

namespace QuerySql

open Compile

/-! ## The levels of a query -/

mutual

/-- The levels on the longest path through a query. -/
def Query.nest : Query → Nat
  | { selection, conditions, having, .. } =>
    max (selectionNest selection) (max (filterNest conditions) (filterNest having))

/-- The levels of a select list that may be absent. -/
def selectionNest : Option (List SelectionItem) → Nat
  | none => 0
  | some items => columnNest items

/-- The levels of conditions that may be absent. -/
def filterNest : Option (List Condition) → Nat
  | none => 0
  | some members => conditionNest members

/-- The levels of a select list. -/
def columnNest : List SelectionItem → Nat
  | [] => 0
  | item :: rest => max item.nest (columnNest rest)

/-- The levels of an item of a select list. -/
def SelectionItem.nest : SelectionItem → Nat
  | .column _ => 0
  | .detail { subquery, .. } => subqueryNest subquery
  | .case { branches, default, .. } => max (conditionNest branches) (typedValueNest default)

/-- The levels of a subquery that may be absent; the subquery itself is one. -/
def subqueryNest : Option Query → Nat
  | none => 0
  | some query => query.nest + 1

/-- The levels of sibling conditions. -/
def conditionNest : List Condition → Nat
  | [] => 0
  | condition :: rest => max condition.nest (conditionNest rest)

/-- The levels of a condition; a group is one, even without members. -/
def Condition.nest : Condition → Nat
  | .group _ members => conditionNest members + 1
  | .comparison _ { operator, datatype, value, expectation, .. } =>
    max (valueNest (takesSubquery operator datatype) value) (typedValueNest expectation)

/-- The levels of a typed value that may be absent. -/
def typedValueNest : Option TypedValue → Nat
  | none => 0
  | some { value, datatype, .. } => valueNest datatype.isNone value

/-- The levels of a value that may be absent; `compiled` says that a subquery is compiled. -/
def valueNest (compiled : Bool) : Option Value → Nat
  | some (.subquery query) => if compiled then query.nest + 1 else 0
  | _ => 0

end

theorem valueNest_false (value : Option Value) : valueNest false value = 0 := by
  rcases value with - | value
  · rfl
  · cases value <;> rfl

/-! ## Parts of a compilation -/

/-- This part of a compilation has `n` levels: it stops exactly if they go beyond the limit from
where it starts, and otherwise its result is the same in all scopes. Depths are words, and no limit
is beyond the largest of them. -/
def Limited {α : Type} (n : Nat) (c : Scope → Except Error α) : Prop :=
  ∃ a, ∀ scope : Scope, scope.depth ≤ scope.limit →
    c scope = if scope.limit < min (scope.depth + n) Word64.max
      then .error (.depthExceeded scope.limit) else .ok a

namespace Limited

variable {α β : Type} {n k : Nat}

theorem ok (a : α) : Limited 0 fun _ => (.ok a : Except Error α) := by
  refine ⟨a, fun scope hscope => ?_⟩
  rw [if_neg (by omega)]

theorem bind {x : Scope → Except Error α} {f : α → Scope → Except Error β} (hx : Limited n x)
    (hf : ∀ a, Limited k (f a)) :
    Limited (max n k) fun scope => (x scope).bind fun a => f a scope := by
  obtain ⟨a, ha⟩ := hx
  obtain ⟨b, hb⟩ := hf a
  refine ⟨b, fun scope hscope => ?_⟩
  simp only [ha scope hscope]
  split
  · next hstop => rw [if_pos (by omega), Except.bind]
  · next hgo =>
    rw [Except.bind, hb scope hscope]
    simp only [show scope.limit < min (scope.depth + max n k) Word64.max ↔
      scope.limit < min (scope.depth + k) Word64.max by omega]

theorem map {x : Scope → Except Error α} (f : α → β) (hx : Limited n x) :
    Limited n fun scope => (x scope).bind fun a => .ok (f a) := by
  have h := hx.bind fun a => Limited.ok (f a)
  rwa [Nat.max_zero] at h

/-- A part that stands one level deeper. -/
theorem nested {c : Scope → Except Error α} (hc : Limited n c) :
    Limited (n + 1) fun scope => scope.nested.result.bind c := by
  obtain ⟨a, ha⟩ := hc
  refine ⟨a, fun scope hscope => ?_⟩
  have hnested : scope.nested.result =
      if scope.limit < min (scope.depth + 1) Word64.max then .error (.depthExceeded scope.limit)
      else .ok { scope with depth := min (scope.depth + 1) Word64.max } := by
    unfold Scope.nested
    simp only [Compilation.result_ite, Compilation.result_throw, Compilation.result_pure]
  simp only [hnested]
  split
  · next hstop => rw [if_pos (by omega), Except.bind]
  · next hgo =>
    rw [Except.bind, ha _ (by simp only; omega)]
    -- A depth that stays at the largest word is not beyond the limit, and neither are deeper ones.
    simp only [show scope.limit < min (min (scope.depth + 1) Word64.max + n) Word64.max ↔
      scope.limit < min (scope.depth + (n + 1)) Word64.max by omega]

end Limited

/-! ## The recursion over a query -/

mutual

/-- The compilation of a query has the levels of the query. -/
theorem limited_markup : (q : Query) → Limited q.nest fun scope => (markup scope q).result
  | { table, selection, joins, conditions, groupBy, having, orderBy, limit, offset } => by
    simp only [result_markup, Query.nest]
    refine (limited_selectionTexts selection).bind fun columns => ?_
    refine (limited_filterText conditions).bind fun conditions => ?_
    exact (limited_filterText having).map _

theorem limited_selectionTexts : (items : Option (List SelectionItem)) →
    Limited (selectionNest items) fun scope => (selectionTexts scope items).result
  | none => .ok []
  | some items => limited_columnTexts items

theorem limited_filterText : (members : Option (List Condition)) →
    Limited (filterNest members) fun scope => (filterText scope members).result
  | none => .ok ""
  | some members => by
    simp only [result_filterText_some, filterNest]
    exact (limited_conditionTexts members).map _

theorem limited_columnTexts : (items : List SelectionItem) →
    Limited (columnNest items) fun scope => (columnTexts scope items).result
  | [] => .ok []
  | item :: rest => by
    simp only [result_columnTexts_cons, columnNest]
    exact (limited_columnText item).bind fun column => (limited_columnTexts rest).map _

theorem limited_columnText : (item : SelectionItem) →
    Limited item.nest fun scope => (columnText scope item).result
  | .column name => .ok name
  | .detail { field, aliasName, subquery := some query, function } => by
    simp only [result_columnText_subquery, SelectionItem.nest, subqueryNest]
    exact .nested ((limited_markup query).map _)
  | .detail { field, aliasName, subquery := none, function } => by
    simp only [result_columnText_field, SelectionItem.nest, subqueryNest]
    exact .ok _
  | .case { branches, default, aliasName } => by
    simp only [result_columnText_case, SelectionItem.nest]
    exact (limited_conditionTexts branches).bind fun branches => (limited_defaultText default).map _

theorem limited_conditionTexts : (members : List Condition) →
    Limited (conditionNest members) fun scope => (conditionTexts scope members).result
  | [] => .ok []
  | condition :: rest => by
    simp only [result_conditionTexts_cons, conditionNest]
    exact (limited_conditionText condition).bind fun text => (limited_conditionTexts rest).map _

theorem limited_conditionText : (condition : Condition) →
    Limited condition.nest fun scope => (conditionText scope condition).result
  | .group operand members => by
    simp only [result_conditionText_group, Condition.nest]
    exact .nested ((limited_conditionTexts members).map _)
  | .comparison operand { clause, operator, datatype, isStatic, value, expectation } => by
    simp only [result_conditionText_comparison, Condition.nest]
    refine (limited_expressionText _ operator datatype isStatic value).bind fun text => ?_
    match expectation with
    | none => exact .ok _
    | some typed => exact (limited_typedValueText typed).map _

theorem limited_expressionText (clause operator : String) (datatype : Option String)
    (isStatic : Bool) : (value : Option Value) →
    Limited (valueNest (takesSubquery operator datatype) value) fun scope =>
      (expressionText scope clause operator datatype isStatic value).result
  | some (.subquery query) => by
    simp only [result_expressionText, takesSubquery]
    cases Operator.parse operator with
    | error e => exact .ok ""
    | ok op =>
      cases hop : op.isNullary with
      | true =>
        simp only [hop, Bool.not_true, Bool.false_and, valueNest_false, if_true]
        exact .ok op.name
      | false =>
        simp only [hop, Bool.false_eq_true, if_false, Bool.not_false, Bool.true_and]
        cases datatype with
        | none => exact .nested ((limited_markup query).map _)
        | some s =>
          simp only [Option.isNone_some, valueNest_false]
          cases Datatype.parse s <;> exact .ok _
  | none | some (.literal _) | some (.range _ _) | some (.array _) | some (.call _)
  | some (.unsupported _) => by
    simp only [result_expressionText, valueNest]
    cases Operator.parse operator with
    | error e => exact .ok ""
    | ok op =>
      cases hop : op.isNullary with
      | true => simpa only [hop, if_true] using .ok op.name
      | false =>
        simp only [hop, Bool.false_eq_true, if_false]
        cases datatype with
        | none => exact .ok op.name
        | some s =>
          simp only
          cases Datatype.parse s <;> exact .ok _

theorem limited_defaultText : (typed : Option TypedValue) →
    Limited (typedValueNest typed) fun scope => (defaultText scope typed).result
  | none => .ok ""
  | some typed => limited_typedValueText typed

theorem limited_typedValueText : (typed : TypedValue) →
    Limited (typedValueNest (some typed)) fun scope => (typedValueText scope typed).result
  | ⟨value, datatype, isStatic⟩ => by
    simp only [result_typedValueText, typedValueNest]
    match datatype, value with
    | some s, none => exact .ok ""
    | some s, some value =>
      simp only [Option.isNone_some, valueNest_false]
      cases Datatype.parse s <;> exact .ok _
    | none, some (.subquery query) => exact .nested ((limited_markup query).map _)
    | none, none | none, some (.literal _) | none, some (.range _ _) | none, some (.array _)
    | none, some (.call _) | none, some (.unsupported _) => exact .ok ""

end

/-! ## Statements and unions -/

/-- At the outset the depth is zero, so the levels of a query are compared with the limit itself. -/
theorem exists_markup_eq (q : Query) : ∃ text, ∀ limit, (markup { limit } q).result =
    if limit < min q.nest Word64.max then .error (.depthExceeded limit) else .ok text := by
  obtain ⟨text, htext⟩ := limited_markup q
  refine ⟨text, fun limit => ?_⟩
  have h := htext { limit } (Nat.zero_le limit)
  rwa [Nat.zero_add] at h

theorem markup_eq_error {limit : Nat} {q : Query} {e : Error}
    (h : (markup { limit } q).result = .error e) : e = .depthExceeded limit ∧ limit < q.nest := by
  obtain ⟨text, htext⟩ := exists_markup_eq q
  rw [htext] at h
  split at h
  · next hlt =>
    cases h
    exact ⟨rfl, by omega⟩
  · cases h

theorem unionMarkup_eq_error {limit : Nat} {members : List Query} {e : Error}
    (h : (unionMarkup limit members).result = .error e) :
    (e = .emptyUnion ∧ members = []) ∨ ∃ q ∈ members, (markup { limit } q).result = .error e := by
  by_cases hne : members = []
  · subst hne
    cases h
    exact .inl ⟨rfl, rfl⟩
  · rw [result_unionMarkup limit hne] at h
    cases hmarkups : (markups limit members).result with
    | error e' =>
      rw [hmarkups] at h
      cases h
      exact .inr (exists_of_markups_eq_error hmarkups)
    | ok texts => rw [hmarkups] at h; cases h

/-- A member that stops makes the union stop, perhaps at an earlier member. -/
theorem unionMarkup_ne_ok {limit : Nat} {members : List Query} {q : Query} (hq : q ∈ members)
    {e : Error} (he : (markup { limit } q).result = .error e) (text : String) :
    (unionMarkup limit members).result ≠ .ok text := by
  intro h
  rw [result_unionMarkup limit (List.ne_nil_of_mem hq)] at h
  cases hmarkups : (markups limit members).result with
  | error e' => rw [hmarkups] at h; cases h
  | ok texts =>
    obtain ⟨t, ht⟩ := exists_of_markups_eq_ok hmarkups hq
    rw [he] at ht
    cases ht

/-- The limit of depth is exact, is the only reason for a query not to be compiled, and shows in
nothing else. A union stops if one of its members would stop on its own, or if it has none. -/
theorem depth_limit_exact :
    (∀ q : Query, ∃ text, ∀ limit < Word64.max, (markup { limit } q).result =
      if limit < q.nest then .error (.depthExceeded limit) else .ok text) ∧
    (∀ (limit : Nat) (members : List Query),
      ((∃ l, (unionMarkup limit members).result = .error (.depthExceeded l)) ↔
        ∃ q ∈ members, ∃ l, (markup { limit } q).result = .error (.depthExceeded l)) ∧
      ((unionMarkup limit members).result = .error .emptyUnion ↔ members = [])) ∧
    (∀ (options : Options) (q : Query) (e : Error), (options.build q).result = .error e →
      e = .depthExceeded options.maxDepth ∧ options.maxDepth < q.nest) ∧
    ∀ (options : Options) (members : List Query) (e : Error),
      (options.buildUnion members).result = .error e → (e = .emptyUnion ∧ members = []) ∨
        (e = .depthExceeded options.maxDepth ∧ ∃ q ∈ members, options.maxDepth < q.nest) := by
  refine ⟨fun q => ?_, fun limit members => ⟨⟨?_, ?_⟩, ?_, ?_⟩, ?_, ?_⟩
  · obtain ⟨text, htext⟩ := exists_markup_eq q
    refine ⟨text, fun limit hlimit => ?_⟩
    rw [htext]
    simp only [show limit < min q.nest Word64.max ↔ limit < q.nest by omega]
  · rintro ⟨l, hl⟩
    rcases unionMarkup_eq_error hl with ⟨he, -⟩ | ⟨q, hq, he⟩
    · cases he
    · exact ⟨q, hq, l, he⟩
  · rintro ⟨q, hq, l, he⟩
    cases hunion : (unionMarkup limit members).result with
    | ok text => exact absurd hunion (unionMarkup_ne_ok hq he text)
    | error e =>
      rcases unionMarkup_eq_error hunion with ⟨-, hnil⟩ | ⟨q', -, he'⟩
      · subst hnil
        cases hq
      · exact ⟨limit, congrArg Except.error (markup_eq_error he').1⟩
  · intro h
    rcases unionMarkup_eq_error h with ⟨-, hnil⟩ | ⟨q, -, he⟩
    · exact hnil
    · cases (markup_eq_error he).1
  · rintro rfl
    rfl
  · intro options q e h
    rw [options.result_build] at h
    cases hmarkup : (markup { limit := options.maxDepth } q).result with
    | ok text => rw [hmarkup] at h; cases h
    | error e' =>
      rw [hmarkup] at h
      cases h
      exact markup_eq_error hmarkup
  · intro options members e h
    rw [options.result_buildUnion] at h
    cases hmarkup : (unionMarkup options.maxDepth members).result with
    | ok text => rw [hmarkup] at h; cases h
    | error e' =>
      rw [hmarkup] at h
      cases h
      refine (unionMarkup_eq_error hmarkup).imp id fun ⟨q, hq, he⟩ => ?_
      obtain ⟨rfl, hlt⟩ := markup_eq_error he
      exact ⟨rfl, q, hq, hlt⟩

/-- Orders whose customer is looked up among orders, and so on. -/
def nestedOrders : Nat → Query
  | 0 => { table := "orders" }
  | n + 1 =>
    { table := "orders"
      conditions := some [
        .comparison none
          { clause := some (.column "customer"), operator := " in ",
            value := some (.subquery (nestedOrders n)) }] }

theorem depth_limit_exact_nestedOrders :
    (nestedOrders 3).nest = 3 ∧
      (markup { limit := 2 } (nestedOrders 3)).result = .error (.depthExceeded 2) ∧
      (∃ text, (markup { limit := 3 } (nestedOrders 3)).result = .ok text ∧
        (markup { limit := 32 } (nestedOrders 3)).result = .ok text) ∧
      ∃ l, (unionMarkup 2 [nestedOrders 1, nestedOrders 3]).result =
        .error (.depthExceeded l) := by
  have hnest : (nestedOrders 3).nest = 3 := by decide +kernel
  obtain ⟨text, htext⟩ := depth_limit_exact.1 (nestedOrders 3)
  have hstop : (markup { limit := 2 } (nestedOrders 3)).result = .error (.depthExceeded 2) := by
    rw [htext 2 (by decide), hnest]
    rfl
  refine ⟨hnest, hstop, ⟨text, ?_, ?_⟩, ?_⟩
  · rw [htext 3 (by decide), hnest]
    rfl
  · rw [htext 32 (by decide), hnest]
    rfl
  · exact (depth_limit_exact.2.1 2 _).1.mpr ⟨nestedOrders 3, by simp, 2, hstop⟩

end QuerySql
