import QuerySql.Proofs.Compilation
import QuerySql.Proofs.Spellings

/-!
# Strict validation covers compilation

A compilation passes over unknown spellings with a warning. The check of a query looks at more
spellings than a compilation does, so a query that passes it is compiled without such a warning.

* `Noted.Quiet`, `Compile.Quiet`: no warning of this kind is among the notes.
* `Part.quiet_of_known`: nothing is passed over in a part whose spellings are all known.
* `strict_validation_complete`: what the check finds, and that it covers a compilation.
-/

namespace QuerySql

open Compile

variable {α β : Type}

/-! ## Notes without an absorbed spelling -/

/-- The note says that an unknown spelling was passed over. -/
def Note.IsAbsorbed (n : Note) : Prop := ∃ e clause, n = .warning (.absorbed e clause)

namespace Noted

/-- No note says that an unknown spelling was passed over. -/
def Quiet (x : Noted α) : Prop := ∀ n ∈ x.notes, ¬ n.IsAbsorbed

theorem quiet_pure (a : α) : (pure a : Noted α).Quiet := by
  intro n hn
  cases hn

theorem quiet_note {n : Note} (h : ¬ n.IsAbsorbed) : (note n).Quiet := by
  intro m hm
  cases List.mem_singleton.mp hm
  exact h

theorem Quiet.bind {x : Noted α} {f : α → Noted β} (hx : x.Quiet) (hf : ∀ a, (f a).Quiet) :
    (x >>= f).Quiet := by
  intro n hn
  rw [notes_bind, List.mem_append] at hn
  rcases hn with hn | hn
  · exact hx n hn
  · exact hf _ n hn

/-- A warning of another kind leaves a result quiet. -/
theorem quiet_warn_pure {w : Warning} (h : ∀ e clause, w ≠ .absorbed e clause) (a : α) :
    (warn w >>= fun _ => pure a : Noted α).Quiet := by
  refine .bind (quiet_note ?_) fun _ => quiet_pure a
  rintro ⟨e, clause, hn⟩
  cases hn
  exact h e clause rfl

end Noted

namespace Compile

theorem quiet_formatElement (isStatic stringLed : Bool) (item : Json) :
    (formatElement isStatic stringLed item).Quiet := by
  cases item with
  | arr | obj => exact Noted.quiet_warn_pure (by simp) _
  | null | bool | num | str => exact Noted.quiet_pure _

theorem quiet_formatElements (isStatic stringLed : Bool) (items : List Json) :
    (formatElements isStatic stringLed items).Quiet := by
  induction items with
  | nil => exact Noted.quiet_pure _
  | cons item items ih =>
    rw [formatElements]
    exact .bind (quiet_formatElement _ _ _) fun _ => .bind ih fun _ => Noted.quiet_pure _

theorem quiet_formatArray (isStatic : Bool) (items : List Json) :
    (formatArray isStatic items).Quiet :=
  .bind (quiet_formatElements _ _ _) fun _ => Noted.quiet_pure _

theorem quiet_formatCall (isStatic : Bool) (call : FunctionCall) :
    (formatCall isStatic call).Quiet := by
  rw [formatCall]
  split
  · exact Noted.quiet_pure _
  · exact .bind (quiet_formatArray _ _) fun _ => Noted.quiet_pure _

theorem quiet_formatScalar (datatype : Datatype) (isStatic : Bool) (scalar : Json) :
    (formatScalar datatype isStatic scalar).Quiet := by
  unfold formatScalar
  split
  · exact Noted.quiet_pure _
  · exact Noted.quiet_pure _
  · exact Noted.quiet_pure _
  · exact Noted.quiet_pure _
  · exact Noted.quiet_warn_pure (by simp) _
  · exact Noted.quiet_warn_pure (by simp) _
  · exact quiet_formatArray _ _
  · exact Noted.quiet_warn_pure (by simp) _

theorem quiet_formatValue (datatype : Datatype) (isStatic : Bool) (value : Value) :
    (formatValue datatype isStatic value).Quiet := by
  cases value with
  | literal scalar => exact quiet_formatScalar _ _ _
  | array items => exact quiet_formatArray _ _
  | call function => exact quiet_formatCall _ _
  | range | subquery | unsupported => exact Noted.quiet_warn_pure (by simp) _

theorem quiet_formatEnd (datatype : Datatype) (isStatic : Bool) (scalar : Option Json) :
    (formatEnd datatype isStatic scalar).Quiet := by
  cases scalar with
  | none => exact Noted.quiet_pure _
  | some scalar => exact quiet_formatScalar _ _ _

theorem quiet_rightHandSide (operator : Operator) (datatype : Datatype) (isStatic : Bool)
    (value : Option Value) : (rightHandSide operator datatype isStatic value).Quiet := by
  unfold rightHandSide
  split
  · exact Noted.quiet_pure _
  · exact Noted.quiet_pure _
  · exact Noted.quiet_pure _
  · exact .bind (quiet_formatEnd _ _ _) fun _ => .bind (quiet_formatEnd _ _ _) fun _ =>
      Noted.quiet_pure _
  · exact Noted.quiet_warn_pure (by simp) _
  · exact .bind (quiet_formatValue _ _ _) fun _ => Noted.quiet_pure _
  · exact .bind (quiet_formatValue _ _ _) fun _ => Noted.quiet_pure _
  · exact .bind (quiet_formatValue _ _ _) fun _ => Noted.quiet_pure _

theorem quiet_clauseText (isStatic : Bool) (clause : Option Clause) :
    (clauseText isStatic clause).Quiet := by
  match clause with
  | none | some (.column _) => exact Noted.quiet_pure _
  | some (.call function) => exact quiet_formatCall _ _

theorem quiet_fieldText (field : Option String) (function : Option FunctionCall) :
    (fieldText field function).Quiet := by
  cases function with
  | none => exact Noted.quiet_pure _
  | some function =>
    rw [fieldText]
    split
    · exact Noted.quiet_pure _
    · exact quiet_formatCall _ _

/-! ## Compilations -/

/-- No note of the compilation says that an unknown spelling was passed over. -/
def Quiet (c : Compilation α) : Prop := Noted.Quiet (ExceptT.run c)

namespace Quiet

theorem pure (a : α) : Quiet (pure a : Compilation α) := Noted.quiet_pure _

theorem throw (e : Error) : Quiet (throw e : Compilation α) := Noted.quiet_pure _

theorem lift {x : Noted α} (h : x.Quiet) : Quiet (liftM x : Compilation α) :=
  Noted.Quiet.bind h fun _ => Noted.quiet_pure _

theorem bind {x : Compilation α} {f : α → Compilation β} (hx : Quiet x) (hf : ∀ a, Quiet (f a)) :
    Quiet (x >>= f) := by
  rw [Quiet, ExceptT.run_bind]
  refine .bind hx fun r => ?_
  cases r with
  | error e => exact Noted.quiet_pure _
  | ok a => exact hf a

theorem nested (scope : Scope) : Quiet scope.nested := by
  change Quiet (if scope.limit < min (scope.depth + 1) Word64.max then _ else _)
  split
  · exact .throw _
  · exact .pure _

end Quiet

theorem quiet_columnTexts {scope : Scope} {items : List SelectionItem}
    (h : ∀ item ∈ items, Quiet (columnText scope item)) : Quiet (columnTexts scope items) := by
  induction items with
  | nil => exact .pure _
  | cons item items ih =>
    rw [List.forall_mem_cons] at h
    rw [columnTexts]
    exact .bind h.1 fun _ => .bind (ih h.2) fun _ => .pure _

theorem quiet_conditionTexts {scope : Scope} {conditions : List Condition}
    (h : ∀ c ∈ conditions, Quiet (conditionText scope c)) :
    Quiet (conditionTexts scope conditions) := by
  induction conditions with
  | nil => exact .pure _
  | cons condition conditions ih =>
    rw [List.forall_mem_cons] at h
    rw [conditionTexts]
    exact .bind h.1 fun _ => .bind (ih h.2) fun _ => .pure _

theorem quiet_selectionTexts {scope : Scope} {selection : Option (List SelectionItem)}
    (h : ∀ item ∈ selection.getD [], Quiet (columnText scope item)) :
    Quiet (selectionTexts scope selection) := by
  cases selection with
  | none => exact .pure _
  | some items => exact quiet_columnTexts h

theorem quiet_filterText {scope : Scope} {filter : Option (List Condition)}
    (h : ∀ c ∈ filter.getD [], Quiet (conditionText scope c)) :
    Quiet (filterText scope filter) := by
  cases filter with
  | none => exact .pure _
  | some members =>
    rw [filterText]
    exact .bind (quiet_conditionTexts h) fun _ => .pure _

/-- Without an unknown operator or datatype nothing is passed over in a right-hand side. -/
theorem quiet_expressionText {operator : String} {datatype : Option String} {value : Option Value}
    (hoperator : (Spelling.operator operator).Known)
    (hdatatype : ∀ s ∈ datatype, (Spelling.datatype s).Known)
    (hvalue : ∀ q ∈ value.bind Value.subquery?, ∀ scope, Quiet (markup scope q))
    (scope : Scope) (clause : String) (isStatic : Bool) :
    Quiet (expressionText scope clause operator datatype isStatic value) := by
  obtain ⟨op, -, hop⟩ := (Operator.parse_cases operator).resolve_right fun h => h.1 hoperator
  unfold expressionText
  rw [hop]
  dsimp only
  split
  · exact .pure _
  · cases datatype with
    | some s =>
      obtain ⟨d, -, hd⟩ :=
        (Datatype.parse_cases s).resolve_right fun h => h.1 (hdatatype s rfl)
      simp only [Option.map_some, hd]
      exact .lift (quiet_rightHandSide _ _ _ _)
    | none =>
      cases value with
      | none => exact .lift (Noted.quiet_warn_pure (by simp) _)
      | some value =>
        cases value with
        | subquery q =>
          exact .bind (.nested scope) fun inner => .bind (hvalue q rfl inner) fun _ => .pure _
        | _ => exact .lift (Noted.quiet_warn_pure (by simp) _)

theorem quiet_typedValueText {value : TypedValue}
    (hdatatype : ∀ s ∈ value.datatype, (Spelling.datatype s).Known)
    (hvalue : ∀ q ∈ value.value.bind Value.subquery?, ∀ scope, Quiet (markup scope q))
    (scope : Scope) : Quiet (typedValueText scope value) := by
  obtain ⟨value, datatype, isStatic⟩ := value
  rw [typedValueText.eq_def]
  cases value with
  | none => cases datatype <;> exact .pure _
  | some value =>
    cases datatype with
    | some s =>
      obtain ⟨d, -, hd⟩ := (Datatype.parse_cases s).resolve_right fun h => h.1 (hdatatype s rfl)
      simp only [Option.map_some, hd]
      exact .lift (quiet_formatValue _ _ _)
    | none =>
      cases value with
      | subquery q =>
        exact .bind (.nested scope) fun inner => .bind (hvalue q rfl inner) fun _ => .pure _
      | _ => exact .lift (Noted.quiet_warn_pure (by simp) _)

theorem quiet_guard (options : Options) (marked : String) : Quiet (options.guard marked) := by
  unfold Options.guard
  split
  · split
    · exact .bind (.lift (Noted.quiet_note (by simp [Note.IsAbsorbed]))) fun _ => .throw _
    · exact .pure _
  · exact .pure _

theorem quiet_inlined (options : Options) (marked : String) : Quiet (options.inlined marked) :=
  .bind (.lift (Noted.quiet_note (by simp [Note.IsAbsorbed]))) fun _ =>
    .bind (quiet_guard options marked) fun _ =>
    .bind (.lift (Noted.quiet_note (by simp [Note.IsAbsorbed]))) fun _ => .pure _

theorem quiet_parameterized (options : Options) (marked : String) :
    Quiet (options.parameterized marked) :=
  .bind (.lift (Noted.quiet_note (by simp [Note.IsAbsorbed]))) fun _ =>
    .bind (quiet_guard options marked) fun _ =>
    .bind (.lift (Noted.quiet_note (by simp [Note.IsAbsorbed]))) fun _ => .pure _

theorem quiet_orRejectionText {c : Compilation String} (h : Quiet c) :
    Quiet (orRejectionText c) := by
  unfold orRejectionText Quiet
  simp only [tryCatch, tryCatchThe, MonadExceptOf.tryCatch, ExceptT.tryCatch, ExceptT.run_mk]
  refine .bind h fun r => ?_
  rcases r with e | a
  · cases e <;> exact Noted.quiet_pure _
  · exact Noted.quiet_pure _

/-! ## The log -/

theorem head?_toList_append {s : String} {c : Char} (h : s.toList.head? = some c) (t : String) :
    (s ++ t).toList.head? = some c := by
  rw [String.toList_append, List.head?_append, h, Option.some_or]

theorem head?_message_absorbed (e : VocabularyError) (clause : String) :
    (Warning.absorbed e clause).message.toList.head? = some 'i' := by
  refine head?_toList_append (head?_toList_append (head?_toList_append ?_ _) _) _
  cases e <;> exact head?_toList_append (head?_toList_append rfl _) _

/-- No other note reads like the warning about an unknown spelling: its first letter is another. -/
theorem message_ne_absorbed {n : Note} (h : ¬ n.IsAbsorbed) (e : VocabularyError)
    (clause : String) : n.message ≠ (Warning.absorbed e clause).message := by
  have hother : ∃ c, n.message.toList.head? = some c ∧ c ≠ 'i' := by
    match n with
    | .marked _ => exact ⟨'T', head?_toList_append rfl _, by decide⟩
    | .built _ => exact ⟨'B', head?_toList_append rfl _, by decide⟩
    | .generated .. =>
      exact ⟨'G', head?_toList_append (head?_toList_append (head?_toList_append
        (head?_toList_append rfl _) _) _) _, by decide⟩
    | .warning (.absorbed e clause) => exact absurd ⟨e, clause, rfl⟩ h
    | .warning (.noRightHandSide _) | .warning (.unsupportedShape _) =>
      exact ⟨'T', head?_toList_append (head?_toList_append rfl _) _, by decide⟩
    | .warning (.mismatchedValue ..) =>
      exact ⟨_, head?_toList_append (head?_toList_append (head?_toList_append
        (head?_toList_append rfl _) _) _) _, by decide⟩
    | .warning .unresolvableTypedValue => exact ⟨'A', rfl, by decide⟩
    | .warning (.rejected _) =>
      exact ⟨'R', head?_toList_append (head?_toList_append rfl _) _, by decide⟩
  obtain ⟨c, hc, hne⟩ := hother
  intro heq
  rw [heq, head?_message_absorbed] at hc
  exact hne (Option.some.inj hc).symm

theorem Quiet.notMem_log {c : Compilation α} (h : Quiet c) (asked : Level) (e : VocabularyError)
    (clause : String) : (Level.warn, (Warning.absorbed e clause).message) ∉ c.log asked := by
  intro hmem
  obtain ⟨n, hn, heq⟩ := List.mem_map.mp hmem
  exact message_ne_absorbed (h n (List.mem_of_mem_filter hn)) e clause (Prod.mk.inj heq).2

end Compile

/-! ## Parts of a query -/

/-- Nothing is passed over in the compilation of the part. -/
def Part.Quiet : Part → Prop
  | .query q => ∀ scope, Compile.Quiet (markup scope q)
  | .item i => ∀ scope, Compile.Quiet (columnText scope i)
  | .condition c => ∀ scope, Compile.Quiet (conditionText scope c)
  | .typedValue v => ∀ scope, Compile.Quiet (typedValueText scope v)

/-- A part is quiet if its own spellings are known and its children are quiet. -/
theorem Part.quiet_of_children {part : Part} (hown : ∀ s ∈ part.ownSpellings, s.Known)
    (hchildren : ∀ child ∈ part.children, child.Quiet) : part.Quiet := by
  match part with
  | .query ⟨table, selection, joins, conditions, groupBy, having, orderBy, limit, offset⟩ =>
    simp only [Part.children, List.forall_mem_append, List.forall_mem_map] at hchildren
    obtain ⟨⟨hselection, hconditions⟩, hhaving⟩ := hchildren
    intro scope
    rw [markup]
    exact .bind (quiet_selectionTexts fun i hi => hselection i hi scope) fun _ =>
      .bind (quiet_filterText fun c hc => hconditions c hc scope) fun _ =>
      .bind (quiet_filterText fun c hc => hhaving c hc scope) fun _ => .pure _
  | .item (.column _) => exact fun scope => .pure _
  | .item (.detail ⟨field, aliasName, subquery, function⟩) =>
    intro scope
    cases subquery with
    | none =>
      rw [columnText]
      exact .bind (.lift (quiet_fieldText _ _)) fun _ => .pure _
    | some q =>
      have hq : (Part.query q).Quiet := hchildren _ List.mem_cons_self
      rw [columnText]
      exact .bind (.nested scope) fun inner => .bind (hq inner) fun _ => .pure _
  | .item (.case ⟨branches, default, aliasName⟩) =>
    simp only [Part.children, List.forall_mem_append, List.forall_mem_map] at hchildren
    obtain ⟨hbranches, hdefault⟩ := hchildren
    intro scope
    rw [columnText]
    refine .bind (quiet_conditionTexts fun c hc => hbranches c hc scope) fun _ =>
      .bind ?_ fun _ => .pure _
    cases default with
    | none => exact .pure _
    | some v => exact hdefault v List.mem_cons_self scope
  | .condition (.group operand members) =>
    simp only [Part.children, List.forall_mem_map] at hchildren
    intro scope
    rw [conditionText]
    exact .bind (.nested scope) fun inner =>
      .bind (quiet_conditionTexts fun c hc => hchildren c hc inner) fun _ => .pure _
  | .condition (.comparison operand ⟨clause, operator, datatype, isStatic, value, expectation⟩) =>
    simp only [Part.children, Part.ownSpellings, List.forall_mem_append, List.forall_mem_map,
      List.forall_mem_cons, Option.mem_toList] at hchildren hown
    obtain ⟨hvalue, hexpectation⟩ := hchildren
    intro scope
    rw [conditionText]
    refine .bind (.lift (quiet_clauseText _ _)) fun _ =>
      .bind (quiet_expressionText hown.1 hown.2 hvalue _ _ _) fun _ => ?_
    cases expectation with
    | none => exact .pure _
    | some v => exact .bind (hexpectation v rfl scope) fun _ => .pure _
  | .typedValue value =>
    simp only [Part.children, Part.ownSpellings, List.forall_mem_map, Option.mem_toList]
      at hchildren hown
    exact quiet_typedValueText hown hchildren

/-- Nothing is passed over in a part whose spellings are all known. -/
theorem Part.quiet_of_known {part : Part} (h : ∀ s ∈ part.spellings, s.Known) : part.Quiet := by
  induction part using Part.induction with
  | step part ih =>
    rw [Part.spellings_eq, List.forall_mem_append, List.forall_mem_flatMap] at h
    exact Part.quiet_of_children h.1 fun child hchild => ih child hchild (h.2 child hchild)

/-! ## Queries -/

/-- A query passes the check exactly if every operator in it is known and every datatype that is
given, and the error is the first that is not. A query that passes is compiled without a warning
about an unknown spelling. -/
theorem strict_validation_complete (q : Query) :
    (q.validate = .ok () ↔
      (∀ operand c, (Part.condition (.comparison operand c)).Within (.query q) →
        (Spelling.operator c.operator).Known ∧ ∀ s ∈ c.datatype, (Spelling.datatype s).Known) ∧
      ∀ v, (Part.typedValue v).Within (.query q) →
        ∀ s ∈ v.datatype, (Spelling.datatype s).Known) ∧
    (∀ e, q.validate = .error e ↔
      ∃ s, FirstOf (fun s => ¬ s.Known) (Part.query q).spellings s ∧ s.error = e) ∧
    (q.validate = .ok () → ∀ (options : Options) (asked : Level) e clause,
      (Level.warn, (Warning.absorbed e clause).message) ∉ (options.build q).log asked ∧
      (Level.warn, (Warning.absorbed e clause).message) ∉ (options.generate q).log asked) := by
  have hok : q.validate = .ok () ↔ ∀ s ∈ (Part.query q).spellings, s.Known :=
    @Part.validate_eq_ok_iff (.query q)
  have herror : ∀ e, q.validate = .error e ↔
      ∃ s, FirstOf (fun s => ¬ s.Known) (Part.query q).spellings s ∧ s.error = e :=
    fun _ => @Part.validate_eq_error_iff (.query q) _
  refine ⟨?_, herror, fun hvalid options asked e clause => ?_⟩
  · rw [hok, Part.forall_spellings_iff]
  · have hmarkup := Part.quiet_of_known (hok.mp hvalid) { limit := options.maxDepth }
    have hbuild : Quiet (options.build q) :=
      .bind hmarkup fun marked => quiet_orRejectionText (quiet_inlined options marked)
    have hgenerate : Quiet (options.generate q) :=
      .bind hmarkup fun marked => quiet_parameterized options marked
    exact ⟨hbuild.notMem_log asked e clause, hgenerate.notMem_log asked e clause⟩

/-- Known spellings, in other cases and with other blanks than their names have. -/
def looselySpelled : Query where
  table := "orders"
  selection := some [.case {
    branches := [.comparison none {
      clause := some (.column "state")
      operator := " is\tNot  null "
      expectation := some { value := some (.subquery { table := "states" }) } }]
    default := some { value := some (.literal (.str "none")), datatype := some "string" } }]

/-- An unknown operator in a subquery that is not compiled, since its comparison has a datatype. -/
def hiddenOperator : Query where
  table := "orders"
  conditions := some [.comparison none {
    clause := some (.column "id")
    operator := "in"
    datatype := some "array"
    value := some (.subquery {
      table := "states"
      conditions := some [.comparison none { operator := "~", datatype := some "text" }] }) }]

theorem strict_validation_complete_orders :
    (looselySpelled.validate = .ok () ∧ ∀ (options : Options) (asked : Level) e clause,
      (Level.warn, (Warning.absorbed e clause).message) ∉
          (options.build looselySpelled).log asked ∧
        (Level.warn, (Warning.absorbed e clause).message) ∉
          (options.generate looselySpelled).log asked) ∧
    hiddenOperator.validate = .error (.invalidOperator "~") ∧
      ∃ s, FirstOf (fun s => ¬ s.Known) (Part.query hiddenOperator).spellings s ∧
        s.error = .invalidOperator "~" := by
  have hvalid : looselySpelled.validate = .ok () := by decide +kernel
  have hinvalid : hiddenOperator.validate = .error (.invalidOperator "~") := by decide +kernel
  exact ⟨⟨hvalid, (strict_validation_complete looselySpelled).2.2 hvalid⟩, hinvalid,
    ((strict_validation_complete hiddenOperator).2.1 _).mp hinvalid⟩

end QuerySql
