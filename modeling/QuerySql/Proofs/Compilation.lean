import Mathlib.Data.List.Forall2
import QuerySql.Proofs.Walks

/-!
# Outcomes of compilations

A compilation takes notes and may stop; its outcome is its result or the reason to stop. Outcomes
compose like the compilations they belong to, whatever notes are taken on the way.

* `SameOutcome R x y`: both stop at the same depth, or both return and the results are in `R`.
* `Returns P x`: the result has property `P`, if there is one.
-/

namespace QuerySql

namespace Compile

variable {α β γ δ : Type}

namespace Compilation

@[simp] theorem result_pure (a : α) : (pure a : Compilation α).result = .ok a := rfl

@[simp] theorem result_throw (e : Error) : (throw e : Compilation α).result = .error e := rfl

@[simp] theorem result_liftM (x : Noted α) : (liftM x : Compilation α).result = .ok x.value := rfl

@[simp] theorem result_bind (x : Compilation α) (f : α → Compilation β) :
    (x >>= f).result = x.result.bind fun a => (f a).result := by
  simp only [Compilation.result, ExceptT.run_bind, Noted.value_bind]
  cases (ExceptT.run x).value <;> rfl

@[simp] theorem result_ite (p : Prop) [Decidable p] (x y : Compilation α) :
    (if p then x else y).result = if p then x.result else y.result := by
  split <;> rfl

end Compilation

theorem result_orRejectionText (c : Compilation String) :
    (orRejectionText c).result =
      match c.result with
      | .error .injectionRejected => .ok rejectionText
      | x => x := by
  unfold orRejectionText Compilation.result
  simp only [tryCatch, tryCatchThe, MonadExceptOf.tryCatch, ExceptT.tryCatch, ExceptT.run_mk]
  rw [Noted.value_bind, ExceptT.run]
  rcases Noted.value c with e | a
  · cases e <;> rfl
  · rfl

/-! ## The recursion over a query -/

section Results

variable (scope : Scope)

theorem result_markup (table : String) (selection : Option (List SelectionItem))
    (joins : Option (List Join)) (conditions : Option (List Condition))
    (groupBy : Option (List String)) (having : Option (List Condition))
    (orderBy : Option SortOrder) (limit offset : Option RowBound) :
    (markup scope ⟨table, selection, joins, conditions, groupBy, having, orderBy, limit,
        offset⟩).result =
      (selectionTexts scope selection).result.bind fun columns =>
        (filterText scope conditions).result.bind fun conditions =>
          (filterText scope having).result.bind fun having =>
            .ok (Select.text {
              table, columns, conditions, having, joins := (joins.getD []).flatMap joinTexts,
              grouping := groupBy.getD [], sorting := orderBy, limit := limit.map boundText,
              offset := offset.map boundText }) := by
  rw [markup]
  simp only [Compilation.result_bind, Compilation.result_pure]

theorem result_filterText_some (members : List Condition) :
    (filterText scope (some members)).result =
      (conditionTexts scope members).result.bind fun texts =>
        .ok (Sql.joinFragments " " texts) := by
  rw [filterText]
  simp only [Compilation.result_bind, Compilation.result_pure]

theorem result_columnTexts_cons (item : SelectionItem) (rest : List SelectionItem) :
    (columnTexts scope (item :: rest)).result =
      (columnText scope item).result.bind fun column =>
        (columnTexts scope rest).result.bind fun columns => .ok (column :: columns) := by
  rw [columnTexts]
  simp only [Compilation.result_bind, Compilation.result_pure]

theorem result_columnText_subquery (field aliasName : Option String) (query : Query)
    (function : Option FunctionCall) :
    (columnText scope (.detail ⟨field, aliasName, some query, function⟩)).result =
      scope.nested.result.bind fun inner =>
        (markup inner query).result.bind fun text =>
          .ok (aliased (Sql.parenthesized text) aliasName) := by
  rw [columnText]
  simp only [Compilation.result_bind, Compilation.result_pure]

theorem result_columnText_field (field aliasName : Option String)
    (function : Option FunctionCall) :
    (columnText scope (.detail ⟨field, aliasName, none, function⟩)).result =
      .ok (aliased (fieldText field function).value aliasName) := by
  rw [columnText]
  rfl

theorem result_columnText_case (branches : List Condition) (default : Option TypedValue)
    (aliasName : Option String) :
    (columnText scope (.case ⟨branches, default, aliasName⟩)).result =
      (conditionTexts scope branches).result.bind fun branches =>
        (defaultText scope default).result.bind fun default =>
          .ok (aliased (caseText (Sql.joinFragments " " branches) default) aliasName) := by
  rw [columnText]
  simp only [Compilation.result_bind, Compilation.result_pure]

theorem result_conditionTexts_cons (condition : Condition) (rest : List Condition) :
    (conditionTexts scope (condition :: rest)).result =
      (conditionText scope condition).result.bind fun text =>
        (conditionTexts scope rest).result.bind fun texts => .ok (text :: texts) := by
  rw [conditionTexts]
  simp only [Compilation.result_bind, Compilation.result_pure]

theorem result_conditionText_group (operand : Option Operand) (members : List Condition) :
    (conditionText scope (.group operand members)).result =
      scope.nested.result.bind fun inner =>
        (conditionTexts inner members).result.bind fun texts =>
          .ok (prefixed operand [Sql.parenthesized (Sql.joinFragments " " texts)]) := by
  rw [conditionText]
  simp only [Compilation.result_bind, Compilation.result_pure]

theorem result_conditionText_comparison (operand : Option Operand) (clause : Option Clause)
    (operator : String) (datatype : Option String) (isStatic : Bool) (value : Option Value)
    (expectation : Option TypedValue) :
    (conditionText scope
        (.comparison operand ⟨clause, operator, datatype, isStatic, value, expectation⟩)).result =
      (expressionText scope (clauseText isStatic clause).value operator datatype isStatic
          value).result.bind fun text =>
        match expectation with
        | none => .ok (prefixed operand [(clauseText isStatic clause).value, text])
        | some typed => (typedValueText scope typed).result.bind fun result =>
          .ok (branchText (clauseText isStatic clause).value text result) := by
  rw [conditionText]
  cases expectation <;>
    simp only [Compilation.result_bind, Compilation.result_pure, Compilation.result_liftM] <;> rfl

/-- Only without a datatype is the value looked into for a subquery. -/
theorem result_expressionText (clause operator : String) (datatype : Option String)
    (isStatic : Bool) (value : Option Value) :
    (expressionText scope clause operator datatype isStatic value).result =
      match Operator.parse operator with
      | .error _ => .ok ""
      | .ok op =>
        if op.isNullary then .ok op.name
        else
          match datatype, value with
          | some s, value =>
            match Datatype.parse s with
            | .ok d => .ok (rightHandSide op d isStatic value).value
            | .error _ => .ok op.name
          | none, some (.subquery query) =>
            scope.nested.result.bind fun inner =>
              (markup inner query).result.bind fun text =>
                .ok (applied op (Sql.parenthesized text))
          | none, _ => .ok op.name := by
  rw [expressionText]
  cases Operator.parse operator with
  | error e => rfl
  | ok op =>
    simp only [Compilation.result_ite, Compilation.result_pure]
    split
    · rfl
    · cases datatype with
      | none =>
        rcases value with - | value
        · rfl
        · cases value with
          | subquery query =>
            simp only [Option.map_none, Compilation.result_bind, Compilation.result_pure]
          | _ => rfl
      | some s =>
        simp only [Option.map_some]
        cases Datatype.parse s <;> rfl

theorem result_typedValueText (value : Option Value) (datatype : Option String)
    (isStatic : Bool) :
    (typedValueText scope ⟨value, datatype, isStatic⟩).result =
      match datatype, value with
      | _, none => .ok ""
      | some s, some value =>
        match Datatype.parse s with
        | .ok d => .ok (formatValue d isStatic value).value
        | .error _ => .ok ""
      | none, some (.subquery query) =>
        scope.nested.result.bind fun inner =>
          (markup inner query).result.bind fun text => .ok (Sql.parenthesized text)
      | none, some _ => .ok "" := by
  rw [typedValueText.eq_def]
  rcases value with - | value
  · cases datatype <;> rfl
  · cases datatype with
    | none =>
      cases value with
      | subquery query =>
        simp only [Option.map_none, Compilation.result_bind, Compilation.result_pure]
      | _ => rfl
    | some s =>
      simp only [Option.map_some]
      cases Datatype.parse s <;> rfl

theorem result_markups_cons (limit : Nat) (query : Query) (rest : List Query) :
    (markups limit (query :: rest)).result =
      (markup { limit } query).result.bind fun text =>
        (markups limit rest).result.bind fun texts => .ok (text :: texts) := by
  rw [markups]
  simp only [Compilation.result_bind, Compilation.result_pure]

theorem result_unionMarkup (limit : Nat) {members : List Query} (h : members ≠ []) :
    (unionMarkup limit members).result =
      (markups limit members).result.bind fun texts => .ok (" UNION ".intercalate texts) := by
  rw [unionMarkup, if_neg (by simpa using h)]
  simp only [Compilation.result_bind, Compilation.result_pure]

end Results

/-! ## The members of a union -/

/-- The members of a union are compiled if each of them is. -/
theorem markups_eq_ok_iff {limit : Nat} {members : List Query} {texts : List String} :
    (markups limit members).result = .ok texts ↔
      List.Forall₂ (fun q text => (markup { limit } q).result = .ok text) members texts := by
  induction members generalizing texts with
  | nil =>
    rw [List.forall₂_nil_left_iff]
    exact ⟨fun h => (Except.ok.inj h).symm, fun h => congrArg Except.ok h.symm⟩
  | cons q members ih =>
    rw [result_markups_cons]
    constructor
    · intro h
      cases hq : (markup { limit } q).result with
      | error e => rw [hq] at h; cases h
      | ok text =>
        cases hrest : (markups limit members).result with
        | error e => rw [hq, hrest] at h; cases h
        | ok rest =>
          rw [hq, hrest] at h
          cases h
          exact .cons hq (ih.mp hrest)
    · intro h
      cases h with
      | cons hq hrest =>
        rw [hq, ih.mpr hrest]
        rfl

theorem exists_of_markups_eq_ok {limit : Nat} {members : List Query} {texts : List String}
    (h : (markups limit members).result = .ok texts) {q : Query} (hq : q ∈ members) :
    ∃ text, (markup { limit } q).result = .ok text := by
  rw [markups_eq_ok_iff] at h
  induction h with
  | nil => cases hq
  | @cons q' text members texts hhead _ ih =>
    rcases List.mem_cons.mp hq with rfl | hmem
    · exact ⟨text, hhead⟩
    · exact ih hmem

/-- A union stops where one of its members does. -/
theorem exists_of_markups_eq_error {limit : Nat} {members : List Query} {e : Error}
    (h : (markups limit members).result = .error e) :
    ∃ q ∈ members, (markup { limit } q).result = .error e := by
  induction members with
  | nil => cases h
  | cons q members ih =>
    rw [result_markups_cons] at h
    cases hq : (markup { limit } q).result with
    | error e' =>
      rw [hq] at h
      cases h
      exact ⟨q, List.mem_cons_self, hq⟩
    | ok text =>
      cases hrest : (markups limit members).result with
      | error e' =>
        rw [hq, hrest] at h
        cases h
        obtain ⟨q', hmem, hq'⟩ := ih hrest
        exact ⟨q', List.mem_cons_of_mem _ hmem, hq'⟩
      | ok texts => rw [hq, hrest] at h; cases h

/-! ## Comparing and checking outcomes -/

/-- Both compilations stop at the same limit of depth, or both return and the results are
related. -/
inductive SameOutcome (R : α → β → Prop) : Except Error α → Except Error β → Prop
  | depth (limit : Nat) :
    SameOutcome R (.error (.depthExceeded limit)) (.error (.depthExceeded limit))
  | ok {a : α} {b : β} (h : R a b) : SameOutcome R (.ok a) (.ok b)

namespace SameOutcome

theorem bind {R : α → β → Prop} {S : γ → δ → Prop} {x : Except Error α} {y : Except Error β}
    {f : α → Except Error γ} {g : β → Except Error δ} (h : SameOutcome R x y)
    (hf : ∀ a b, R a b → SameOutcome S (f a) (g b)) : SameOutcome S (x.bind f) (y.bind g) := by
  cases h with
  | depth limit => exact .depth limit
  | ok h => exact hf _ _ h

theorem nested (scope : Scope) : SameOutcome Eq scope.nested.result scope.nested.result := by
  unfold Scope.nested
  simp only [Compilation.result_ite, Compilation.result_throw, Compilation.result_pure]
  split
  · exact .depth scope.limit
  · exact .ok rfl

theorem of_ok {R : α → β → Prop} {a : α} {y : Except Error β} (h : SameOutcome R (.ok a) y) :
    ∃ b, y = .ok b ∧ R a b := by
  cases h with
  | ok h => exact ⟨_, rfl, h⟩

theorem of_ok_right {R : α → β → Prop} {x : Except Error α} {b : β}
    (h : SameOutcome R x (.ok b)) : ∃ a, x = .ok a ∧ R a b := by
  cases h with
  | ok h => exact ⟨_, rfl, h⟩

end SameOutcome

theorem eq_ok_of_toOption {ε : Type} {a : α} {x : Except ε α} (h : x.toOption = some a) :
    x = .ok a := by
  cases x with
  | error e => cases h
  | ok b => exact congrArg Except.ok (Option.some.inj h)

/-- The result has the property, if there is one. -/
def Returns {ε : Type} (P : α → Prop) (x : Except ε α) : Prop := ∀ a, x = .ok a → P a

namespace Returns

variable {ε : Type}

theorem ok {P : α → Prop} {a : α} (h : P a) : Returns P (.ok a : Except ε α) := by
  intro b hb
  cases hb
  exact h

theorem error (P : α → Prop) (e : ε) : Returns P (.error e) := by
  intro a ha
  cases ha

theorem bind {P : α → Prop} {Q : β → Prop} {x : Except ε α} {f : α → Except ε β}
    (h : Returns P x) (hf : ∀ a, P a → Returns Q (f a)) : Returns Q (x.bind f) := by
  cases x with
  | error e => exact .error Q e
  | ok a => exact hf a (h a rfl)

/-- Nothing is asked of the result that the second part goes on with. -/
theorem bind_of_forall {Q : β → Prop} {x : Except ε α} {f : α → Except ε β}
    (hf : ∀ a, Returns Q (f a)) : Returns Q (x.bind f) :=
  bind (P := fun _ => True) (fun _ _ => trivial) fun a _ => hf a

end Returns

end Compile

/-! ## The calls of a compiler -/

namespace Options

open Compile

variable (options : Options)

/-- The guard is on and the statement, with its literals written in, contains something
forbidden. -/
def rejects (marked : String) : Bool :=
  options.withSanitizedInjection && (Sql.denied? (Sql.unmark marked)).isSome

theorem result_guard (marked : String) :
    (options.guard marked).result =
      if options.rejects marked then .error .injectionRejected else .ok () := by
  unfold Options.guard Options.rejects
  cases options.withSanitizedInjection with
  | false => rfl
  | true => cases Sql.denied? (Sql.unmark marked) <;> rfl

theorem result_parameterized (marked : String) :
    (options.parameterized marked).result =
      if options.rejects marked then .error .injectionRejected
      else .ok (Statement.ofMarked marked) := by
  simp only [Options.parameterized, Compilation.result_bind, Compilation.result_liftM, result_guard]
  cases options.rejects marked <;> rfl

theorem result_inlined (marked : String) :
    (orRejectionText (options.inlined marked)).result =
      .ok (if options.rejects marked then rejectionText else Sql.unmark marked) := by
  have hin : (options.inlined marked).result =
      if options.rejects marked then .error .injectionRejected else .ok (Sql.unmark marked) := by
    simp only [Options.inlined, Compilation.result_bind, Compilation.result_liftM, result_guard]
    cases options.rejects marked <;> rfl
  rw [result_orRejectionText, hin]
  cases options.rejects marked <;> rfl

theorem result_generate (query : Query) :
    (options.generate query).result =
      (markup { limit := options.maxDepth } query).result.bind fun marked =>
        if options.rejects marked then .error .injectionRejected
        else .ok (Statement.ofMarked marked) := by
  simp only [Options.generate, Compilation.result_bind, result_parameterized]

theorem result_build (query : Query) :
    (options.build query).result =
      (markup { limit := options.maxDepth } query).result.bind fun marked =>
        .ok (if options.rejects marked then rejectionText else Sql.unmark marked) := by
  simp only [Options.build, Compilation.result_bind, result_inlined]

/-- A statement is returned for a marked text that passes the guard. -/
theorem generate_eq_ok {query : Query} {statement : Statement}
    (h : (options.generate query).result = .ok statement) :
    ∃ marked, (markup { limit := options.maxDepth } query).result = .ok marked ∧
      options.rejects marked = false ∧ statement = Statement.ofMarked marked := by
  rw [result_generate] at h
  cases hm : (markup { limit := options.maxDepth } query).result with
  | error e =>
    rw [hm] at h
    cases h
  | ok marked =>
    rw [hm] at h
    simp only [Except.bind] at h
    split at h
    · cases h
    · next hr =>
      cases h
      exact ⟨marked, rfl, by simpa using hr, rfl⟩

theorem result_generateUnion (members : List Query) :
    (options.generateUnion members).result =
      (unionMarkup options.maxDepth members).result.bind fun marked =>
        if options.rejects marked then .error .injectionRejected
        else .ok (Statement.ofMarked marked) := by
  simp only [Options.generateUnion, Compilation.result_bind, result_parameterized]

theorem result_buildUnion (members : List Query) :
    (options.buildUnion members).result =
      (unionMarkup options.maxDepth members).result.bind fun marked =>
        .ok (if options.rejects marked then rejectionText else Sql.unmark marked) := by
  simp only [Options.buildUnion, Compilation.result_bind, result_inlined]

end Options

end QuerySql
