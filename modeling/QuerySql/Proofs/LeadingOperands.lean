import QuerySql.Proofs.InertValues
import QuerySql.Proofs.Spacing

/-!
# The first word of a filter

An operand ties a condition to the one before it, and the first condition of a filter has none
before it. So an operand at the start of a filter is taken off, once. A condition of which nothing
is written but its operand makes for one more: if the first condition is like that, the operand of
the second stays. In no other case does a filter start with an operand.

* `LedByOperand ends ws`: the first of the words is an operand.
* `Condition.isBare`: nothing is written for the condition but its operand.
* `repeatsOperand`, `leavesNoFilter`: what conditions make for a second operand, or for no filter.
* `Select.words_text`: the words of a statement are those of its clauses.
* `filters_start_with_conditions`: the first words of the filters of a statement.
* `second_operand_stays`: a filter that starts with an operand.
-/

namespace QuerySql

open Compile Sql

/-! ## Words of texts that are put together -/

theorem isBlankText_iff_words {s : String} :
    Text.isBlankText s = true ↔ Text.words s.toList = [] :=
  Text.words_eq_nil_iff.symm

theorem words_intercalate (ts : List String) :
    Text.words (" ".intercalate ts).toList = ts.flatMap fun t => Text.words t.toList := by
  induction ts with
  | nil => rfl
  | cons t ts ih =>
    cases ts with
    | nil => simp
    | cons u ts =>
      rw [String.intercalate_cons_cons, String.toList_append, String.toList_append,
        List.append_assoc, List.flatMap_cons, ← ih]
      exact Text.words_append_blank (by decide) _ _

/-- Texts without words can be left out. -/
theorem flatMap_words_filter {p : String → Bool} (ts : List String)
    (hp : ∀ t, p t = false → Text.words t.toList = []) :
    ((ts.filter p).flatMap fun t => Text.words t.toList) =
      ts.flatMap fun t => Text.words t.toList := by
  induction ts with
  | nil => rfl
  | cons t ts ih =>
    cases ht : p t with
    | true => rw [List.filter_cons_of_pos ht, List.flatMap_cons, List.flatMap_cons, ih]
    | false =>
      rw [List.filter_cons_of_neg (by simp [ht]), List.flatMap_cons, hp t ht, ih, List.nil_append]

theorem words_joinFragments (ts : List String) :
    Text.words (joinFragments " " ts).toList = ts.flatMap fun t => Text.words t.toList := by
  rw [joinFragments, words_intercalate, flatMap_words_filter]
  intro t ht
  exact isBlankText_iff_words.mp (by simpa using ht)

theorem words_joinNonempty (ts : List String) :
    Text.words (joinNonempty " " ts).toList = ts.flatMap fun t => Text.words t.toList := by
  rw [joinNonempty, words_intercalate, flatMap_words_filter]
  intro t ht
  obtain rfl : t = "" := by simpa using ht
  rfl

/-- The words of a statement are those of its clauses, one after the other. -/
theorem Select.words_text (s : Select) :
    Text.words s.text.toList = s.clauses.flatMap fun clause => Text.words clause.toList := by
  rw [Select.text, normalizeSpacing, String.toList_ofList, words_respace, words_joinNonempty]

theorem isWord_keyword (operand : Operand) : Text.IsWord operand.keyword.toList := by
  cases operand <;> decide

theorem words_prefixed (operand : Option Operand) (fragments : List String) :
    Text.words (prefixed operand fragments).toList =
      (operand.toList.map fun o => o.keyword.toList) ++
        fragments.flatMap fun f => Text.words f.toList := by
  rw [prefixed, words_joinFragments, List.flatMap_append]
  cases operand with
  | none => rfl
  | some o => simp [Text.words_of_isWord (isWord_keyword o)]

/-! ## Taking an operand off -/

/-- The words without an operand before the others. -/
def withoutLeadingOperandWord : List (List Char) → List (List Char)
  | [] => []
  | w :: ws =>
    if w = Operand.and.keyword.toList ∨ w = Operand.or.keyword.toList then ws else w :: ws

theorem afterOperand?_eq_some_iff {operand : Operand} {cs rest : List Char} :
    afterOperand? operand cs = some rest ↔
      cs = operand.keyword.toList ++ rest ∧ rest.head?.all Text.isBlank = true := by
  simp only [afterOperand?, Option.ite_none_right_eq_some, Bool.and_eq_true,
    List.isPrefixOf_iff_prefix, Option.some.injEq]
  constructor
  · rintro ⟨⟨⟨rest, rfl⟩, hrest⟩, rfl⟩
    rw [List.drop_left] at hrest ⊢
    exact ⟨rfl, hrest⟩
  · rintro ⟨rfl, hrest⟩
    rw [List.drop_left]
    exact ⟨⟨List.prefix_append _ _, hrest⟩, rfl⟩

theorem words_trimStart (cs : List Char) : Text.words (Text.trimStart cs) = Text.words cs := by
  induction cs with
  | nil => rfl
  | cons c cs ih =>
    cases hc : Text.isBlank c with
    | true => rw [Text.words_blank hc, ← ih, Text.trimStart, List.dropWhile_cons_of_pos hc]; rfl
    | false => rw [Text.trimStart, List.dropWhile_cons_of_neg (by simp [hc])]

theorem words_of_afterOperand? {operand : Operand} {cs rest : List Char}
    (h : afterOperand? operand cs = some rest) :
    Text.words cs = operand.keyword.toList :: Text.words rest := by
  obtain ⟨rfl, hrest⟩ := afterOperand?_eq_some_iff.mp h
  exact Text.words_append_of_head? (isWord_keyword operand) hrest

/-- An operand is the first word of the text, or is not taken off. -/
theorem words_withoutLeadingOperand (s : String) :
    Text.words (withoutLeadingOperand s).toList =
      withoutLeadingOperandWord (Text.words s.toList) := by
  simp only [withoutLeadingOperand, String.toList_ofList]
  rw [← words_trimStart s.toList]
  cases hand : afterOperand? .and (Text.trimStart s.toList) with
  | some rest =>
    rw [words_of_afterOperand? hand]
    simp [withoutLeadingOperandWord, words_trimStart]
  | none =>
    cases hor : afterOperand? .or (Text.trimStart s.toList) with
    | some rest =>
      rw [words_of_afterOperand? hor]
      simp [withoutLeadingOperandWord, words_trimStart]
    | none =>
      simp only [Option.none_or, Option.map_none, Option.getD_none]
      cases hcs : Text.trimStart s.toList with
      | nil => rfl
      | cons c cs =>
        have hc : Text.isBlank c = false := by
          have hhead := s.toList.head?_dropWhile_not Text.isBlank
          rwa [← Text.trimStart, hcs] at hhead
        have hnot : ∀ {operand : Operand}, afterOperand? operand (c :: cs) = none →
            c :: cs.takeWhile (!Text.isBlank ·) ≠ operand.keyword.toList := by
          intro operand hnone heq
          obtain ⟨rest, hrest, hblank, -⟩ :=
            Text.exists_of_words_eq_cons hc (Text.words_cons hc cs)
          rw [heq] at hrest
          rw [afterOperand?_eq_some_iff.mpr ⟨hrest, hblank⟩] at hnone
          cases hnone
        rw [hcs] at hand hor
        rw [Text.words_cons hc, withoutLeadingOperandWord, if_neg]
        exact not_or.mpr ⟨hnot hand, hnot hor⟩

theorem words_filterClause {keyword : String} (hk : Text.IsWord keyword.toList) (s : String) :
    Text.words (filterClause keyword s).toList =
      match withoutLeadingOperandWord (Text.words s.toList) with
      | [] => []
      | w :: ws => keyword.toList :: w :: ws := by
  rw [← words_withoutLeadingOperand]
  simp only [filterClause]
  cases hblank : Text.isBlankText (withoutLeadingOperand s) with
  | true =>
    rw [isBlankText_iff_words.mp hblank]
    rfl
  | false =>
    have hne : Text.words (withoutLeadingOperand s).toList ≠ [] := by
      rw [ne_eq, ← isBlankText_iff_words, hblank]
      exact Bool.false_ne_true
    obtain ⟨w, ws, hw⟩ := List.exists_cons_of_ne_nil hne
    have hparts := Text.words_append_blank (b := ' ') (by decide) keyword.toList
      (withoutLeadingOperand s).toList
    rw [Text.words_of_isWord hk, hw] at hparts
    rw [if_neg Bool.false_ne_true, hw, String.toList_append, String.toList_append,
      List.append_assoc]
    exact hparts

/-! ## Words that are operands -/

/-- The first of the words is an operand, or an operand and more after a character in `ends`. -/
def LedByOperand (ends : Char → Bool) (ws : List (List Char)) : Prop :=
  ∃ w ∈ ws.head?, ∃ (operand : Operand) (rest : List Char),
    w = operand.keyword.toList ++ rest ∧ rest.head?.all ends = true

section LedByOperand

variable {ends : Char → Bool} {c : Char} {ws : List (List Char)}

theorem ledByOperand_iff :
    LedByOperand ends ws ↔ ∃ w ∈ ws.head?, ∃ operand ∈ [Operand.and, .or],
      operand.keyword.toList <+: w ∧
        (w.drop operand.keyword.toList.length).head?.all ends = true := by
  refine exists_congr fun w => and_congr_right fun _ => exists_congr fun operand => ?_
  constructor
  · rintro ⟨rest, rfl, hrest⟩
    exact ⟨by cases operand <;> decide, List.prefix_append _ _, by rwa [List.drop_left]⟩
  · rintro ⟨-, ⟨rest, rfl⟩, hrest⟩
    rw [List.drop_left] at hrest
    exact ⟨rest, rfl, hrest⟩

instance (ends : Char → Bool) (ws : List (List Char)) : Decidable (LedByOperand ends ws) :=
  decidable_of_iff _ ledByOperand_iff.symm

theorem ledByOperand_keyword (operand : Operand) (ws : List (List Char)) :
    LedByOperand ends (operand.keyword.toList :: ws) :=
  ⟨_, rfl, operand, [], by simp, rfl⟩

theorem not_ledByOperand_nil : ¬ LedByOperand ends [] := by
  rintro ⟨w, hw, -⟩
  cases hw

/-- Whether words start with an operand is seen from the first of them. -/
theorem ledByOperand_append (hne : ws ≠ []) (vs : List (List Char)) :
    LedByOperand ends (ws ++ vs) ↔ LedByOperand ends ws := by
  obtain ⟨w, ws, rfl⟩ := List.exists_cons_of_ne_nil hne
  rfl

/-- Both operands are told from other words by the first letter. -/
theorem not_ledByOperand_of_letter (hc : c ∉ ['A', 'O']) (w : List Char) (ws : List (List Char)) :
    ¬ LedByOperand ends ((c :: w) :: ws) := by
  rintro ⟨_, hw, operand, rest, heq, -⟩
  cases hw
  refine hc ?_
  cases operand with
  | and => rw [(List.cons.inj heq).1]; decide
  | or => rw [(List.cons.inj heq).1]; decide

theorem not_ledByOperand_of_head? (ends : Char → Bool) (hc : c ∉ ['A', 'O'])
    (hblank : Text.isBlank c = false) {cs : List Char} (h : cs.head? = some c) :
    Text.words cs ≠ [] ∧ ¬ LedByOperand ends (Text.words cs) := by
  obtain ⟨ds, rfl⟩ := List.head?_eq_some_iff.mp h
  rw [Text.words_cons hblank]
  exact ⟨List.cons_ne_nil _ _, not_ledByOperand_of_letter hc _ _⟩

/-- A parenthesis after a text makes no operand of its first word. -/
theorem LedByOperand.of_call {cs rest : List Char}
    (h : LedByOperand ends (Text.words (cs ++ '(' :: rest))) :
    LedByOperand ends (Text.words cs) := by
  have hparen : ∀ operand : Operand, '(' ∉ operand.keyword.toList := by
    intro operand
    cases operand <;> decide
  induction cs using Text.words_induction with
  | nil =>
    rw [List.nil_append, Text.words_cons (by decide)] at h
    exact absurd h (not_ledByOperand_of_letter (by decide) _ _)
  | blank c cs hc ih =>
    rw [List.cons_append, Text.words_blank hc] at h
    rw [Text.words_blank hc]
    exact ih h
  | word w cs hw hcs =>
    rw [Text.words_append_of_head? hw hcs]
    rw [List.append_assoc, Text.words_append hw] at h
    obtain ⟨_, hfirst, operand, tail, heq, htail⟩ := h
    cases hfirst
    have hnext : ∀ x ∈ ((cs ++ '(' :: rest).takeWhile (!Text.isBlank ·)).head?, x = '(' := by
      cases cs with
      | nil => simp [show Text.isBlank '(' = false by decide]
      | cons d cs =>
        have hd : Text.isBlank d = true := by simpa using hcs
        simp [hd]
    rcases List.append_eq_append_iff.mp heq with ⟨more, hkeyword, hmore⟩ | ⟨more, rfl, rfl⟩
    · -- The operand would reach beyond the word, over the parenthesis.
      cases more with
      | nil => exact ⟨w, rfl, operand, [], by simp [hkeyword], rfl⟩
      | cons x more =>
        rw [hmore] at hnext
        refine absurd ?_ (hparen operand)
        rw [hkeyword, ← hnext x rfl]
        simp
    · refine ⟨_, rfl, operand, more, rfl, ?_⟩
      cases more with
      | nil => rfl
      | cons x more => exact htail

end LedByOperand

/-! ## Words of a condition -/

/-- The left-hand side as it is written, up to a parenthesis if it is a call. -/
def Clause.name : Clause → String
  | .column name => name
  | .call function => Text.uppercase function.name

/-- The left-hand side of the condition, if it is a comparison, starts with an operand itself. -/
def Condition.NamesOperand (ends : Char → Bool) : Condition → Prop
  | .group _ _ => False
  | .comparison _ c =>
    ∃ clause ∈ c.clause, LedByOperand ends (Text.words clause.name.toList)

instance (ends : Char → Bool) (c : Condition) : Decidable (c.NamesOperand ends) :=
  match c with
  | .group _ _ => isFalse id
  | .comparison _ c => inferInstanceAs (Decidable (∃ clause ∈ c.clause, _))

/-- The operand that is written before the condition. A branch of a `CASE` has none. -/
def Condition.operand? : Condition → Option Operand
  | .group operand _ => operand
  | .comparison operand c => if c.expectation.isNone then operand else none

/-- There is nothing to write for a left-hand side. -/
def isBlankClause : Option Clause → Bool
  | none => true
  | some (.column name) => Text.isBlankText name
  | some (.call _) => false

/-- Nothing is written for the condition but its operand: it is a comparison without a left-hand
side, and its operator is unknown. -/
def Condition.isBare : Condition → Bool
  | .group _ _ => false
  | .comparison _ c =>
    c.expectation.isNone && isBlankClause c.clause && !(Operator.parse c.operator).isOk

/-- The words are those of the condition: its operand, and then words that do not start with an
operand, unless the condition is bare. -/
def Condition.WrittenAs (ends : Char → Bool) (c : Condition) (ws : List (List Char)) : Prop :=
  ∃ body, ws = (c.operand?.toList.map fun o => o.keyword.toList) ++ body ∧
    (body = [] ↔ c.isBare = true) ∧ ¬ LedByOperand ends body

section Conditions

variable {ends : Char → Bool} {scope : Scope}

theorem exists_value_formatCall (isStatic : Bool) (call : FunctionCall) :
    ∃ arguments, (formatCall isStatic call).value = callText call.name arguments := by
  unfold formatCall
  split <;> exact ⟨_, rfl⟩

theorem words_clauseText (isStatic : Bool) {clause : Option Clause}
    (h : ∀ c ∈ clause, ¬ LedByOperand ends (Text.words c.name.toList)) :
    (Text.words (clauseText isStatic clause).value.toList = [] ↔ isBlankClause clause = true) ∧
      ¬ LedByOperand ends (Text.words (clauseText isStatic clause).value.toList) := by
  cases clause with
  | none => exact ⟨iff_of_true rfl rfl, not_ledByOperand_nil⟩
  | some clause =>
    cases clause with
    | column name => exact ⟨isBlankText_iff_words.symm, h (.column name) rfl⟩
    | call function =>
      obtain ⟨arguments, heq⟩ := exists_value_formatCall isStatic function
      have htext : (clauseText isStatic (some (.call function))).value.toList =
          (Text.uppercase function.name).toList ++ '(' :: (arguments.toList ++ [')']) := by
        rw [clauseText, heq, callText, parenthesized]
        simp
      rw [htext]
      refine ⟨iff_of_false ?_ (by simp [isBlankClause]), fun hled => h _ rfl hled.of_call⟩
      rw [Text.words_eq_nil_iff]
      simp [show Text.isBlank '(' = false by decide]

theorem not_ledByOperand_operator (ends : Char → Bool) (op : Operator) :
    Text.words op.name.toList ≠ [] ∧ ¬ LedByOperand ends (Text.words op.name.toList) := by
  cases op <;> exact not_ledByOperand_of_head? ends (by decide) (by decide) rfl

/-- What is written after the left-hand side starts with the operator. -/
theorem returns_words_operator {operator : String} {op : Operator}
    (hop : Operator.parse operator = .ok op) (clause : String) (datatype : Option String)
    (isStatic : Bool) (value : Option Value) :
    Returns (fun text => ∃ more, Text.words text.toList = Text.words op.name.toList ++ more)
      (expressionText scope clause operator datatype isStatic value).result := by
  have halone : ∃ more, Text.words op.name.toList = Text.words op.name.toList ++ more :=
    ⟨[], (List.append_nil _).symm⟩
  have hjoined : ∀ operands, ∃ more,
      Text.words (joinFragments " " (op.name :: operands)).toList =
        Text.words op.name.toList ++ more :=
    fun operands => ⟨_, words_joinFragments _⟩
  rw [result_expressionText, hop]
  simp only
  split
  · exact .ok halone
  · split
    · next s =>
      cases Datatype.parse s with
      | error e => exact .ok halone
      | ok d =>
        cases value with
        | none => cases op <;> exact .ok halone
        | some value => exact .ok (by rw [value_rightHandSide]; exact hjoined _)
    · next query =>
      exact .bind_of_forall fun inner => .bind_of_forall fun text => .ok (hjoined _)
    · exact .ok halone

/-- An unknown operator leaves no words, and a known one is not taken for an operand. -/
theorem returns_words_expressionText (ends : Char → Bool) (clause operator : String)
    (datatype : Option String) (isStatic : Bool) (value : Option Value) :
    Returns (fun text =>
        (Text.words text.toList = [] ↔ (Operator.parse operator).isOk = false) ∧
          ¬ LedByOperand ends (Text.words text.toList))
      (expressionText scope clause operator datatype isStatic value).result := by
  cases hop : Operator.parse operator with
  | error e =>
    rw [result_expressionText, hop]
    exact .ok ⟨iff_of_true rfl rfl, not_ledByOperand_nil⟩
  | ok op =>
    intro text htext
    obtain ⟨more, hmore⟩ := returns_words_operator hop clause datatype isStatic value text htext
    obtain ⟨hne, hled⟩ := not_ledByOperand_operator ends op
    rw [hmore, ledByOperand_append hne]
    exact ⟨iff_of_false (by simp [hne]) (by simp [Except.isOk, Except.toBool]), hled⟩

theorem Condition.returns_writtenAs (c : Condition) (hname : ¬ c.NamesOperand ends) :
    Returns (fun text => c.WrittenAs ends (Text.words text.toList))
      (conditionText scope c).result := by
  cases c with
  | group operand members =>
    rw [result_conditionText_group]
    refine .bind_of_forall fun inner => .bind_of_forall fun texts =>
      .ok ⟨_, words_prefixed _ _, ?_⟩
    rw [List.flatMap_cons, List.flatMap_nil, List.append_nil]
    obtain ⟨hne, hled⟩ := not_ledByOperand_of_head? ends (c := '(') (by decide) (by decide)
      (show (parenthesized (joinFragments " " texts)).toList.head? = some '(' by
        simp [parenthesized])
    exact ⟨iff_of_false hne (by simp [Condition.isBare]), hled⟩
  | comparison operand c =>
    obtain ⟨clause, operator, datatype, isStatic, value, expectation⟩ := c
    have hclause : ∀ c ∈ clause, ¬ LedByOperand ends (Text.words c.name.toList) :=
      fun c hc hled => hname ⟨c, hc, hled⟩
    obtain ⟨hblank, hled⟩ := words_clauseText isStatic hclause
    rw [result_conditionText_comparison]
    refine .bind (returns_words_expressionText ends _ operator datatype isStatic value)
      fun text hwords => ?_
    obtain ⟨htext, hledtext⟩ := hwords
    cases expectation with
    | none =>
      refine .ok ⟨_, words_prefixed _ _, ?_⟩
      rw [List.flatMap_cons, List.flatMap_cons, List.flatMap_nil, List.append_nil]
      constructor
      · simp [Condition.isBare, hblank, htext]
      · by_cases hnone : Text.words (clauseText isStatic clause).value.toList = []
        · rwa [hnone, List.nil_append]
        · rwa [ledByOperand_append hnone]
    | some typed =>
      refine .bind_of_forall fun result => .ok ⟨_, (List.nil_append _).symm, ?_⟩
      obtain ⟨hne, hled⟩ := not_ledByOperand_of_head? ends (c := 'W') (by decide) (by decide)
        (show (branchText (clauseText isStatic clause).value text result).toList.head? = some 'W' by
          simp [branchText])
      exact ⟨iff_of_false hne (by simp [Condition.isBare]), hled⟩

theorem returns_forall₂_writtenAs {cs : List Condition}
    (hnames : ∀ c ∈ cs, ¬ c.NamesOperand ends) :
    Returns (fun texts => List.Forall₂ (Condition.WrittenAs ends) cs
        (texts.map fun t => Text.words t.toList)) (conditionTexts scope cs).result := by
  induction cs with
  | nil =>
    rw [conditionTexts]
    exact .ok .nil
  | cons c cs ih =>
    obtain ⟨hname, hnames⟩ := List.forall_mem_cons.mp hnames
    rw [result_conditionTexts_cons]
    exact .bind (c.returns_writtenAs hname) fun text htext =>
      .bind (ih hnames) fun texts htexts => .ok (.cons htext htexts)

end Conditions

/-! ## Words of a filter -/

/-- Nothing at all is written for the condition. -/
def Condition.isSilent (c : Condition) : Bool := c.isBare && c.operand?.isNone

/-- Of the conditions that are written at all, the first is an operand alone, and the second has
an operand too. -/
def repeatsOperand (conditions : List Condition) : Bool :=
  match conditions.filter (!·.isSilent) with
  | first :: second :: _ => first.isBare && second.operand?.isSome
  | _ => false

/-- Nothing is written for the conditions but one operand at most. -/
def leavesNoFilter (conditions : List Condition) : Bool :=
  match conditions.filter (!·.isSilent) with
  | [] => true
  | [only] => only.isBare
  | _ => false

section Filters

variable {ends : Char → Bool} {c : Condition} {ws : List (List Char)}

theorem withoutLeadingOperandWord_of_not_led (h : ¬ LedByOperand ends ws) :
    withoutLeadingOperandWord ws = ws := by
  cases ws with
  | nil => rfl
  | cons w ws =>
    rw [withoutLeadingOperandWord, if_neg]
    rintro (rfl | rfl)
    · exact h (ledByOperand_keyword .and ws)
    · exact h (ledByOperand_keyword .or ws)

theorem withoutLeadingOperandWord_keyword (operand : Operand) (ws : List (List Char)) :
    withoutLeadingOperandWord (operand.keyword.toList :: ws) = ws := by
  cases operand <;> rfl

namespace Condition.WrittenAs

theorem eq_nil (h : c.WrittenAs ends ws) (hc : c.isSilent = true) : ws = [] := by
  obtain ⟨body, rfl, hbare, -⟩ := h
  simp only [isSilent, Bool.and_eq_true, Option.isNone_iff_eq_none] at hc
  simp [hbare.mpr hc.1, hc.2]

/-- The words of a condition that is written start with its operand, or with no operand. -/
theorem ledByOperand_iff (h : c.WrittenAs ends ws) (hc : c.isSilent = false)
    (vs : List (List Char)) :
    ws ++ vs ≠ [] ∧ (LedByOperand ends (ws ++ vs) ↔ c.operand?.isSome = true) := by
  obtain ⟨body, rfl, hbare, hled⟩ := h
  cases hoperand : c.operand? with
  | some operand =>
    simp only [Option.toList_some, List.map_cons, List.map_nil, List.cons_append,
      List.nil_append]
    exact ⟨List.cons_ne_nil _ _, iff_of_true (ledByOperand_keyword operand _) rfl⟩
  | none =>
    have hbody : body ≠ [] := by
      rw [ne_eq, hbare]
      simpa [isSilent, hoperand] using hc
    simp only [Option.toList_none, List.map_nil, List.nil_append]
    rw [ledByOperand_append hbody]
    exact ⟨by simp [hbody], iff_of_false hled Bool.false_ne_true⟩

/-- A condition that is not bare is left with words of its own, without its operand. -/
theorem without_operand (h : c.WrittenAs ends ws) (hc : c.isBare = false)
    (vs : List (List Char)) :
    withoutLeadingOperandWord (ws ++ vs) ≠ [] ∧
      ¬ LedByOperand ends (withoutLeadingOperandWord (ws ++ vs)) := by
  obtain ⟨body, rfl, hbare, hled⟩ := h
  have hbody : body ≠ [] := by
    rw [ne_eq, hbare, hc]
    exact Bool.false_ne_true
  have hboth : body ++ vs ≠ [] ∧ ¬ LedByOperand ends (body ++ vs) :=
    ⟨by simp [hbody], by rwa [ledByOperand_append hbody]⟩
  cases c.operand? with
  | some operand =>
    simp only [Option.toList_some, List.map_cons, List.map_nil, List.cons_append,
      List.nil_append, withoutLeadingOperandWord_keyword]
    exact hboth
  | none =>
    simp only [Option.toList_none, List.map_nil, List.nil_append]
    rwa [withoutLeadingOperandWord_of_not_led hboth.2]

/-- Of a bare condition nothing is left. -/
theorem without_bare (h : c.WrittenAs ends ws) (hc : c.isBare = true) (hs : c.isSilent = false)
    (vs : List (List Char)) : withoutLeadingOperandWord (ws ++ vs) = vs := by
  obtain ⟨body, rfl, hbare, -⟩ := h
  obtain ⟨operand, hoperand⟩ : ∃ operand, c.operand? = some operand := by
    simpa [isSilent, hc, Option.isSome_iff_exists] using hs
  simp [hbare.mpr hc, hoperand, withoutLeadingOperandWord_keyword]

end Condition.WrittenAs

/-- Conditions that are not written at all can be left out. -/
theorem forall₂_writtenAs_filter {cs : List Condition} {wss : List (List (List Char))}
    (h : List.Forall₂ (Condition.WrittenAs ends) cs wss) :
    ∃ wss', List.Forall₂ (Condition.WrittenAs ends) (cs.filter (!·.isSilent)) wss' ∧
      wss'.flatten = wss.flatten := by
  induction h with
  | nil => exact ⟨[], .nil, rfl⟩
  | @cons c ws cs wss hc _ ih =>
    obtain ⟨wss', hwss', hflatten⟩ := ih
    cases hsilent : c.isSilent with
    | true =>
      refine ⟨wss', ?_, ?_⟩
      · rwa [List.filter_cons_of_neg (by simp [hsilent])]
      · rw [hflatten, List.flatten_cons, hc.eq_nil hsilent, List.nil_append]
    | false =>
      refine ⟨ws :: wss', ?_, by rw [List.flatten_cons, List.flatten_cons, hflatten]⟩
      rw [List.filter_cons_of_pos (by simp [hsilent])]
      exact .cons hc hwss'

/-- What is left of the words of conditions once an operand is taken off: nothing, or words that
start with an operand exactly if a bare condition comes before another operand. -/
theorem words_without_operand {cs : List Condition} {wss : List (List (List Char))}
    (h : List.Forall₂ (Condition.WrittenAs ends) cs wss) :
    (withoutLeadingOperandWord wss.flatten = [] ↔ leavesNoFilter cs = true) ∧
      (LedByOperand ends (withoutLeadingOperandWord wss.flatten) ↔ repeatsOperand cs = true) := by
  obtain ⟨wss', hwss', hflatten⟩ := forall₂_writtenAs_filter h
  have hwritten : ∀ c ∈ cs.filter (!·.isSilent), c.isSilent = false := by
    intro c hc
    simpa using (List.mem_filter.mp hc).2
  rw [← hflatten, leavesNoFilter, repeatsOperand]
  generalize cs.filter (!·.isSilent) = written at hwss' hwritten
  cases hwss' with
  | nil => exact ⟨iff_of_true rfl rfl, iff_of_false not_ledByOperand_nil Bool.false_ne_true⟩
  | @cons first ws rest wss' hfirst hrest =>
    obtain ⟨hspoken, hwritten⟩ := List.forall_mem_cons.mp hwritten
    rw [List.flatten_cons]
    cases hbare : first.isBare with
    | false =>
      obtain ⟨hne, hled⟩ := hfirst.without_operand hbare wss'.flatten
      cases rest <;> simp [hne, hled, hbare]
    | true =>
      rw [hfirst.without_bare hbare hspoken]
      cases hrest with
      | nil => simp [hbare, not_ledByOperand_nil]
      | @cons second vs rest wss' hsecond _ =>
        have hspoken := hwritten second List.mem_cons_self
        obtain ⟨hne, hled⟩ := hsecond.ledByOperand_iff hspoken wss'.flatten
        simp only [List.flatten_cons, hbare, Bool.true_and]
        exact ⟨iff_of_false hne Bool.false_ne_true, hled⟩

end Filters

/-! ## Filters of a statement -/

/-- The statement of the query, clause by clause. -/
structure Query.CompilesTo (scope : Scope) (q : Query) (s : Select) : Prop where
  table : s.table = q.table
  columns : (selectionTexts scope q.selection).result = .ok s.columns
  joins : s.joins = (q.joins.getD []).flatMap joinTexts
  conditions : (filterText scope q.conditions).result = .ok s.conditions
  grouping : s.grouping = q.groupBy.getD []
  having : (filterText scope q.having).result = .ok s.having
  sorting : s.sorting = q.orderBy
  limit : s.limit = q.limit.map boundText
  offset : s.offset = q.offset.map boundText

theorem Query.exists_compilesTo {scope : Scope} {q : Query} {sql : String}
    (h : (markup scope q).result = .ok sql) :
    ∃ s : Select, q.CompilesTo scope s ∧ sql = s.text := by
  obtain ⟨table, selection, joins, conditions, groupBy, having, orderBy, limit, offset⟩ := q
  rw [result_markup] at h
  cases hcolumns : (selectionTexts scope selection).result with
  | error e => rw [hcolumns] at h; cases h
  | ok columns =>
    cases hconditions : (filterText scope conditions).result with
    | error e => rw [hcolumns, hconditions] at h; cases h
    | ok conditionsText =>
      cases hhaving : (filterText scope having).result with
      | error e => rw [hcolumns, hconditions, hhaving] at h; cases h
      | ok havingText =>
        rw [hcolumns, hconditions, hhaving] at h
        exact ⟨_, ⟨rfl, hcolumns, rfl, hconditions, rfl, hhaving, rfl, rfl, rfl⟩,
          (Except.ok.inj h).symm⟩

/-- The statement has the filter of the conditions after its first `n` clauses. The filter is left
out if there is nothing to write but one operand at most. Otherwise it is the keyword and other
words, which start with an operand exactly if there are two operands in a row before the first
condition. -/
def Select.ReadsFilter (s : Select) (ends : Char → Bool) (n : Nat) (keyword : String)
    (conditions : List Condition) : Prop :=
  ∃ filter,
    Text.words s.text.toList =
      ((s.clauses.take n).flatMap fun t => Text.words t.toList) ++ filter ++
        ((s.clauses.drop (n + 1)).flatMap fun t => Text.words t.toList) ∧
    if leavesNoFilter conditions then filter = []
    else ∃ ws, ws ≠ [] ∧ filter = keyword.toList :: ws ∧
      (LedByOperand ends ws ↔ repeatsOperand conditions = true)

theorem returns_words_filterText {ends : Char → Bool} (scope : Scope)
    (conditions : Option (List Condition))
    (hnames : ∀ c ∈ conditions.getD [], ¬ c.NamesOperand ends) :
    Returns (fun text => ∃ wss, Text.words text.toList = wss.flatten ∧
        List.Forall₂ (Condition.WrittenAs ends) (conditions.getD []) wss)
      (filterText scope conditions).result := by
  cases conditions with
  | none =>
    rw [filterText]
    exact .ok ⟨[], rfl, .nil⟩
  | some members =>
    rw [result_filterText_some]
    refine .bind (returns_forall₂_writtenAs hnames) fun texts htexts => .ok ⟨_, ?_, htexts⟩
    rw [words_joinFragments, List.flatMap_def]

/-- A clause that is made from the text of conditions is their filter. -/
theorem Select.readsFilter {s : Select} {ends : Char → Bool} {n : Nat} {keyword text : String}
    {scope : Scope} {conditions : Option (List Condition)} (hk : Text.IsWord keyword.toList)
    (hclauses : s.clauses =
      s.clauses.take n ++ filterClause keyword text :: s.clauses.drop (n + 1))
    (htext : (filterText scope conditions).result = .ok text)
    (hnames : ∀ c ∈ conditions.getD [], ¬ c.NamesOperand ends) :
    s.ReadsFilter ends n keyword (conditions.getD []) := by
  obtain ⟨wss, hwords, hwss⟩ := returns_words_filterText scope conditions hnames text htext
  obtain ⟨hleaves, hled⟩ := words_without_operand hwss
  refine ⟨Text.words (filterClause keyword text).toList, ?_, ?_⟩
  · rw [s.words_text]
    nth_rewrite 1 [hclauses]
    simp
  · rw [words_filterClause hk, hwords]
    cases hws : withoutLeadingOperandWord wss.flatten with
    | nil => rw [if_pos (hleaves.mp hws)]
    | cons w ws =>
      rw [hws] at hleaves hled
      rw [if_neg fun hnone => List.cons_ne_nil w ws (hleaves.mpr hnone)]
      exact ⟨w :: ws, List.cons_ne_nil w ws, rfl, hled⟩

/-- The words of a statement are those of its clauses, and those of its filters are known: a filter
starts with the operand of a condition exactly if all that comes before it is another operand, and
is left out exactly if there is nothing else than one operand. Names that start with an operand
themselves are excepted. -/
theorem filters_start_with_conditions {scope : Scope} {q : Query} {sql : String}
    (h : (markup scope q).result = .ok sql) :
    ∃ s : Select, q.CompilesTo scope s ∧ sql = s.text ∧
      Text.words sql.toList = (s.clauses.flatMap fun clause => Text.words clause.toList) ∧
      ∀ ends : Char → Bool,
        ((∀ c ∈ q.conditions.getD [], ¬ c.NamesOperand ends) →
          s.ReadsFilter ends 2 "WHERE" (q.conditions.getD [])) ∧
        ((∀ c ∈ q.having.getD [], ¬ c.NamesOperand ends) →
          s.ReadsFilter ends 4 "HAVING" (q.having.getD [])) := by
  obtain ⟨s, hs, rfl⟩ := Query.exists_compilesTo h
  refine ⟨s, hs, rfl, s.words_text, fun ends => ⟨?_, ?_⟩⟩
  · exact Select.readsFilter (by decide) rfl hs.conditions
  · exact Select.readsFilter (by decide) rfl hs.having

/-- Orders by a filter that starts with a condition of which nothing is written, and by one that
starts with an operand alone. -/
def ordersByNumber : Query where
  table := "orders"
  conditions := some [.comparison none {},
    .comparison (some .or) { clause := some (.column "ORDER_ID"), operator := "is null" }]
  having := some [.comparison (some .and) { operator := "~~" },
    .group (some .or) [.comparison none
      { clause := some (.call ⟨"count", true, [.str "*"]⟩), operator := "is not null" }]]

theorem filters_start_with_conditions_ordersByNumber :
    ∃ s : Select,
      s.text = "SELECT * FROM orders WHERE ORDER_ID IS NULL HAVING OR (COUNT(*) IS NOT NULL)" ∧
      repeatsOperand (ordersByNumber.conditions.getD []) = false ∧
      s.ReadsFilter (· == '(') 2 "WHERE" (ordersByNumber.conditions.getD []) ∧
      repeatsOperand (ordersByNumber.having.getD []) = true ∧
      s.ReadsFilter (· == '(') 4 "HAVING" (ordersByNumber.having.getD []) := by
  have hsql : (markup ⟨32, 0⟩ ordersByNumber).result = .ok
      "SELECT * FROM orders WHERE ORDER_ID IS NULL HAVING OR (COUNT(*) IS NOT NULL)" :=
    eq_ok_of_toOption (by decide +kernel)
  obtain ⟨s, -, hs, -, hfilters⟩ := filters_start_with_conditions hsql
  obtain ⟨hwhere, hhaving⟩ := hfilters (· == '(')
  exact ⟨s, hs.symm, by decide +kernel, hwhere (by decide +kernel), by decide +kernel,
    hhaving (by decide +kernel)⟩

/-- A condition with an operand and nothing else, before one with an operand. -/
def twoOperands : Query where
  table := "t"
  conditions := some [.comparison (some .and) {},
    .comparison (some .and) { clause := some (.column "a"), operator := "IS NULL" }]

/-- Two conditions with an operand and nothing else. -/
def operandsAlone : Query where
  table := "t"
  conditions := some [.comparison (some .and) {}, .comparison (some .or) {}]

/-- The operand of the second condition stays if nothing is written for the first but an operand,
even if there is nothing else to filter by. -/
theorem second_operand_stays :
    (∀ c ∈ twoOperands.conditions.getD [] ++ operandsAlone.conditions.getD [],
        ¬ c.NamesOperand fun _ => true) ∧
      (Options.build {} twoOperands).result = .ok "SELECT * FROM t WHERE AND a IS NULL" ∧
      (Options.build {} operandsAlone).result = .ok "SELECT * FROM t WHERE OR" :=
  ⟨by decide +kernel, eq_ok_of_toOption (by decide +kernel),
    eq_ok_of_toOption (by decide +kernel)⟩

end QuerySql
