import QuerySql.Proofs.Alike
import QuerySql.Proofs.Literals

/-!
# Parameterized text and bound values

The text with placeholders says nothing about the values that are bound to them: it is the same for
two queries that differ in bound values only.

* `Query.SameUpToBoundValues`: the queries are equal once the values to bind are erased.
* `eraser_keeps`: the text of a literal and that of the erased literal are alike.
* `generate_sql_eq_of_sameUpToBoundValues`: the two statements have the same text.
-/

namespace QuerySql

open Compile Sql

/-- The element of an array without its content; its kind stays. -/
def Json.erased : Json → Json
  | .str _ => .str ""
  | .num _ => .num (.integer 0)
  | .bool _ => .bool false
  | j => j

/-- Erases the values that are bound as parameters. Raw values stay, and so does what is left out
for being of the wrong kind. -/
def eraser : LiteralMap where
  scalar
    | some .string, false, _ => .null
    | some .number, false, .num _ => .num (.integer 0)
    | some .boolean, false, .bool _ => .bool false
    | some .array, false, j => j.erased
    | _, _, j => j
  item
    | false, j => j.erased
    | true, j => j
  bound
    | .flagged _ false => .flagged 0 false
    | b => b

/-- The queries differ in bound values only. -/
def Query.SameUpToBoundValues (q₁ q₂ : Query) : Prop :=
  q₁.mapLiterals eraser = q₂.mapLiterals eraser

/-! ## Single literals -/

/-- Quoted literals are alike, whatever stands between the apostrophes. -/
theorem alike_quoteLiteral {s t : String} (hs : hasReserved s = false)
    (ht : hasReserved t = false) :
    Alike (mark (quoteLiteral s)) (mark (quoteLiteral t)) := by
  refine .mark (hasReserved_quoteLiteral hs) (hasReserved_quoteLiteral ht) ?_
  simp only [quoteLiteral, String.toList_ofList]
  exact .quoted s.toList t.toList

/-- Numbers are alike: no character of a number is an apostrophe. -/
theorem alike_number {s t : String} (hs : ∀ c ∈ s.toList, isNumberChar c = true)
    (ht : ∀ c ∈ t.toList, isNumberChar c = true) : Alike (mark s) (mark t) := by
  have hnumber : ∀ {s : String}, (∀ c ∈ s.toList, isNumberChar c = true) →
      hasReserved s = false ∧ hasQuote s.toList = false := by
    intro s hs
    refine ⟨hasReserved_eq_false.mpr fun c hc => (isNumberChar_ne (hs c hc)).1, ?_⟩
    simp only [hasQuote, List.contains_eq_mem, decide_eq_false_iff_not]
    exact fun hm => (isNumberChar_ne (hs _ hm)).2.1 rfl
  exact .mark (hnumber hs).1 (hnumber ht).1 (.bare (hnumber hs).2 (hnumber ht).2)

theorem alike_bool (b b' : Bool) :
    Alike (mark (lexical (.bool b))) (mark (lexical (.bool b'))) := by
  have hbool : ∀ b, hasReserved (lexical (.bool b)) = false ∧
      hasQuote (lexical (.bool b)).toList = false := by decide
  exact .mark (hbool b).1 (hbool b').1 (.bare (hbool b).2 (hbool b').2)

/-- An element and the erased one are both left out, or written alike. -/
theorem relatedAll_erased (stringLed : Bool) {j : Json} (hj : j.reserved? = none) :
    RelatedAll (fun s t (_ : List Empty) => Alike s t) ((elementText? stringLed j).map mark).toList
      ((elementText? stringLed j.erased).map mark).toList [] := by
  have hl := hasReserved_lexical hj
  cases j with
  | arr | obj => exact .nil
  | str s => exact .single (alike_quoteLiteral (t := "") hl (by decide))
  | null =>
    simp only [elementText?, Json.erased]
    refine .single ?_
    split
    · exact alike_quoteLiteral hl hl
    · exact .mark hl hl (.same _)
  | num n =>
    simp only [elementText?, Json.erased]
    refine .single ?_
    split
    · exact alike_quoteLiteral hl (hasReserved_lexical (by rfl))
    · exact alike_number n.isNumberChar_of_mem_text (Number.isNumberChar_of_mem_text _)
  | bool b =>
    simp only [elementText?, Json.erased]
    refine .single ?_
    split
    · exact alike_quoteLiteral hl (hasReserved_lexical (by rfl))
    · exact alike_bool b false

theorem isStringLed_erased (js : List Json) :
    isStringLed (js.map Json.erased) = isStringLed js := by
  unfold isStringLed
  rw [List.findSome?_map]
  congr 2
  funext j
  cases j <;> rfl

/-- An array and the erased one are written alike. -/
theorem formatArray_alike {js : List Json} (hjs : ∀ j ∈ js, j.reserved? = none) :
    Alike (formatArray false js).value (formatArray false (js.map Json.erased)).value :=
  fragmentRelation_alike.assembly.formatArray false false (isStringLed_erased js)
    fun j hj => relatedAll_erased (isStringLed js) (hjs j hj)

/-- A static value is written without reserved characters. -/
theorem hasReserved_formatScalar (d : Datatype) {j : Json} (hj : j.reserved? = none) :
    hasReserved (formatScalar d true j).value = false := by
  have hl := hasReserved_lexical hj
  have harr : hasReserved (formatArray true [j]).value = false :=
    hasReserved_formatArray fun k hk => by rwa [List.mem_singleton.mp hk]
  cases d with
  | string => exact hasReserved_quoteLiteral hl
  | raw => exact hl
  | array => exact harr
  | function => rfl
  | number =>
    cases j with
    | num n => exact hl
    | _ => rfl
  | boolean =>
    cases j with
    | bool b => exact hl
    | _ => rfl

/-- The text of a value and that of the erased value are alike. -/
theorem formatScalar_alike (d : Datatype) {j : Json} (hj : j.reserved? = none) :
    Alike (formatScalar d false j).value
      (formatScalar d false (eraser.scalar (some d) false j)).value := by
  have hl := hasReserved_lexical hj
  have hempty : Alike "" "" := fragmentRelation_alike.bare (by decide)
  cases d with
  | string => exact alike_quoteLiteral (t := "NULL") hl (by decide)
  | raw => exact .mark hl hl (.same _)
  | array => exact formatArray_alike fun k hk => by rwa [List.mem_singleton.mp hk]
  | function => exact hempty
  | number =>
    cases j with
    | num n =>
      exact alike_number n.isNumberChar_of_mem_text (Number.integer 0).isNumberChar_of_mem_text
    | _ => exact hempty
  | boolean =>
    cases j with
    | bool b => exact alike_bool b false
    | _ => exact hempty

theorem boundText_alike (b : RowBound) : Alike (boundText b) (boundText (eraser.bound b)) := by
  have hrepr : ∀ n, ∀ c ∈ (Nat.repr n).toList, isNumberChar c = true :=
    fun n c => isNumberChar_of_mem_repr
  have hbare : ∀ n, hasReserved (Nat.repr n) = false :=
    fun n => hasReserved_eq_false.mpr fun c hc => (isNumberChar_ne (hrepr n c hc)).1
  match b with
  | .bare n => exact fragmentRelation_alike.bare (hbare n)
  | .flagged n true => exact fragmentRelation_alike.bare (hbare n)
  | .flagged n false => exact alike_number (hrepr n) (hrepr 0)

/-- Erasing the values to bind keeps every text alike. -/
theorem eraser_keeps : eraser.Keeps (fun l => l.isUnreserved = true) Alike where
  relation := fragmentRelation_alike
  unreserved := id
  scalar := by
    intro s d isStatic j _ hj
    rw [Leaf.isUnreserved_scalar] at hj
    cases isStatic with
    | false => exact formatScalar_alike d hj
    | true =>
      have hsame : eraser.scalar (some d) true j = j := by cases d <;> rfl
      rw [hsame]
      exact fragmentRelation_alike.bare (hasReserved_formatScalar d hj)
  items := by
    intro isStatic js hjs
    simp only [Leaf.isUnreserved_item] at hjs
    cases isStatic with
    | false => exact formatArray_alike hjs
    | true =>
      have hsame : js.map (eraser.item true) = js := List.map_id' js
      rw [hsame]
      exact fragmentRelation_alike.bare (hasReserved_formatArray hjs)
  bound := fun _ => boundText_alike _

/-! ## Statements -/

theorem markup_erased_alike (scope : Scope) {q : Query} (hq : q.Unreserved) :
    SameOutcome Alike (markup scope q).result (markup scope (q.mapLiterals eraser)).result :=
  eraser_keeps.markup_related scope q hq

/-- The text with placeholders does not depend on the values that are bound to them. Nothing is
assumed on names, raw values and static values. -/
theorem generate_sql_eq_of_sameUpToBoundValues {options : Options} {q₁ q₂ : Query}
    {st₁ st₂ : Statement} (hq₁ : q₁.Unreserved) (hq₂ : q₂.Unreserved)
    (hsame : q₁.SameUpToBoundValues q₂) (hst₁ : (options.generate q₁).result = .ok st₁)
    (hst₂ : (options.generate q₂).result = .ok st₂) : st₁.sql = st₂.sql := by
  obtain ⟨m₁, hm₁, -, rfl⟩ := options.generate_eq_ok hst₁
  obtain ⟨m₂, hm₂, -, rfl⟩ := options.generate_eq_ok hst₂
  have halike₁ := markup_erased_alike { limit := options.maxDepth } hq₁
  have halike₂ := markup_erased_alike { limit := options.maxDepth } hq₂
  rw [hm₁, hsame] at halike₁
  rw [hm₂] at halike₂
  obtain ⟨e, he, hme₁⟩ := halike₁.of_ok
  obtain ⟨e', he', hme₂⟩ := halike₂.of_ok
  cases he.symm.trans he'
  exact hme₁.sql_eq.trans hme₂.sql_eq.symm

/-- The first rows of a table by owner. The apostrophe in its name is closed by nothing but the
first one of the literal. -/
def rowsOfOwner (owner : Json) (rows : Nat) : Query where
  table := "o'clock"
  conditions := some [
    .comparison none
      { clause := some (.column "owner"), operator := "=", datatype := some "STRING",
        value := some (.literal owner) }]
  limit := some (.flagged rows false)

theorem generate_sql_eq_rowsOfOwner :
    ∃ st₁ st₂ : Statement,
      (Options.generate {} (rowsOfOwner (.str "a  'b") 5)).result = .ok st₁ ∧
      (Options.generate {} (rowsOfOwner .null 7)).result = .ok st₂ ∧
      st₁.params ≠ st₂.params ∧ st₁.sql = st₂.sql := by
  have h₁ : (Options.generate {} (rowsOfOwner (.str "a  'b") 5)).result =
      .ok ⟨"SELECT * FROM o'clock WHERE owner = ? LIMIT ?", [.string "a 'b", .integer 5]⟩ :=
    eq_ok_of_toOption (by decide +kernel)
  have h₂ : (Options.generate {} (rowsOfOwner .null 7)).result =
      .ok ⟨"SELECT * FROM o'clock WHERE owner = ? LIMIT ?", [.string "NULL", .integer 7]⟩ :=
    eq_ok_of_toOption (by decide +kernel)
  have hsame : (rowsOfOwner (.str "a  'b") 5).SameUpToBoundValues (rowsOfOwner .null 7) := rfl
  exact ⟨_, _, h₁, h₂, by decide +kernel, generate_sql_eq_of_sameUpToBoundValues (by decide +kernel)
    (by decide +kernel) hsame h₁ h₂⟩

end QuerySql
