import QuerySql.Proofs.Binding
import QuerySql.Proofs.Layouts
import QuerySql.Proofs.Recursion

/-!
# The quoted literals of a query

Strings are written in quotes, and so are other values in their place: any value of the datatype for
strings, and any element of an array that is led by a string. A walk over the query meets the quoted
literals of its statement in their order. The query with empty strings in their place compiles to
the statement with nothing between the same quotes.

* `Query.quotedLiterals`: the quoted literals, in the order of the statement.
* `Query.emptyQuotes`: the query with empty strings in their place.
* `markup_laidOut`: both are found in the text of the statement.
-/

namespace QuerySql

open Compile Sql

/-! ## The walk -/

/-- The quoted literal of an element of an array; strings are quoted, and all others if the array is
led by a string. -/
def elementQuoted (isStatic stringLed : Bool) : Json → List QuotedLiteral
  | .arr _ | .obj _ => []
  | .str s => [⟨isStatic, s⟩]
  | j => if stringLed then [⟨isStatic, lexical j⟩] else []

/-- The quoted literals of an array. -/
def arrayQuoted (isStatic : Bool) (items : List Json) : List QuotedLiteral :=
  items.flatMap (elementQuoted isStatic (isStringLed items))

/-- Collects the quoted literals. -/
def quotedCollector : Collector QuotedLiteral where
  scalar
    | .string, isStatic, j => [⟨isStatic, lexical j⟩]
    | .array, isStatic, j => arrayQuoted isStatic [j]
    | _, _, _ => []
  array := arrayQuoted

/-- The quoted literals of a query, in the order of its statement. -/
def Query.quotedLiterals (q : Query) : List QuotedLiteral := q.collect quotedCollector

/-! ## Empty quotes -/

/-- The element of an array with an empty string in its place if it is quoted. -/
def Json.emptyQuotes (stringLed : Bool) : Json → Json
  | .arr items => .arr items
  | .obj members => .obj members
  | .str _ => .str ""
  | j => if stringLed then .str "" else j

/-- Puts an empty string in the place of every value that is quoted. -/
def quoteEmptier : Revision where
  scalar
    | some .string, _, _ => .str ""
    | some .array, _, .str _ => .str ""
    | _, _, j => j
  array _ items := items.map (Json.emptyQuotes (isStringLed items))
  selected items := items.map (Json.emptyQuotes (isStringLed items))

/-- The query with an empty string in the place of every value that is quoted. -/
def Query.emptyQuotes (q : Query) : Query := q.revise quoteEmptier

/-! ## Assumptions on the leaves -/

/-- The text that is written for a leaf outside of quotes. -/
def Leaf.unquotedText? : Leaf → Option String
  | .name s => some s
  | .field j => some (lexical j)
  | .scalar datatype _ j =>
    if Datatype.ofSpelling? datatype = some .raw then some (lexical j) else none
  | _ => none

/-- No text that is written outside of quotes has an apostrophe. -/
def Query.QuoteFree (q : Query) : Prop :=
  ∀ l ∈ q.leaves, ∀ s ∈ l.unquotedText?, '\x27' ∉ s.toList

instance (q : Query) : Decidable q.QuoteFree :=
  inferInstanceAs (Decidable (∀ l ∈ q.leaves, ∀ s ∈ l.unquotedText?, '\x27' ∉ s.toList))

/-- What is assumed of a leaf, and more if there are to be no apostrophes outside of quotes. -/
structure Leaf.Orderly (quoteFree : Bool) (l : Leaf) : Prop where
  unreserved : l.isUnreserved = true
  even : ∀ s ∈ l.bareText?, s.toList.count '\x27' % 2 = 0
  notMem : quoteFree = true → ∀ s ∈ l.unquotedText?, '\x27' ∉ s.toList

theorem Leaf.unquotedText?_of_bareText? {l : Leaf} {s : String} (h : s ∈ l.bareText?) :
    s ∈ l.unquotedText? := by
  match l with
  | .name _ | .field _ | .scalar _ true _ => exact h
  | .scalar _ false _ | .spelling _ | .item _ _ | .object _ | .bound _ => cases h

theorem Query.QuoteFree.balanced {q : Query} (h : q.QuoteFree) : q.Balanced := by
  intro l hl s hs
  rw [List.count_eq_zero.mpr (h l hl s (Leaf.unquotedText?_of_bareText? hs))]

theorem Query.orderly_of_quoteFree {q : Query} (hq : q.Unreserved) (h : q.QuoteFree) :
    ∀ l ∈ q.leaves, l.Orderly true :=
  fun l hl => ⟨hq l hl, h.balanced l hl, fun _ => h l hl⟩

theorem Query.orderly_of_balanced {q : Query} (hq : q.Unreserved) (h : q.Balanced) :
    ∀ l ∈ q.leaves, l.Orderly false :=
  fun l hl => ⟨hq l hl, h l hl, by simp⟩

/-- Texts outside of quotes are left alone. -/
theorem quoteEmptier_fixes_unquotedText? : quoteEmptier.Fixes Leaf.unquotedText? where
  items _ _ := by simp [Leaf.unquotedText?, Function.comp_def]
  selected _ := by simp [Leaf.unquotedText?, Function.comp_def]
  bound _ := rfl
  scalar datatype isStatic j := by
    simp only [Leaf.unquotedText?]
    split
    · next hraw => rw [hraw]; rfl
    · rfl

/-- With the same texts outside of quotes, both queries or none are free of apostrophes there. -/
theorem Query.QuoteFree.of_emptyQuotes_eq {q q' : Query} (h : q.QuoteFree)
    (hsame : q'.emptyQuotes = q.emptyQuotes) : q'.QuoteFree := by
  have hfix := quoteEmptier_fixes_unquotedText?.filterMap_leaves
  have htexts : q'.leaves.filterMap Leaf.unquotedText? = q.leaves.filterMap Leaf.unquotedText? := by
    rw [← hfix q', ← hfix q]
    exact congrArg (fun q : Query => q.leaves.filterMap Leaf.unquotedText?) hsame
  intro l hl s hs
  have hmem : s ∈ q.leaves.filterMap Leaf.unquotedText? :=
    htexts ▸ List.mem_filterMap.mpr ⟨l, hl, hs⟩
  obtain ⟨l', hl', hs'⟩ := List.mem_filterMap.mp hmem
  exact h l' hl' s hs'

/-! ## Single values -/

variable {quoteFree : Bool}

theorem standalone_number {s : String} (h : ∀ c ∈ s.toList, isNumberChar c = true) :
    Standalone quoteFree s :=
  .of_notMem (bare_of_isNumberChar h).unreserved fun hm => absurd (h _ hm) (by decide)

/-- An element of an array: in quotes in both texts, or the same in both, or left out in both. -/
theorem relatedAll_element (isStatic stringLed : Bool) {j : Json} (hj : j.reserved? = none) :
    RelatedAll (LaidOut quoteFree) ((elementText? stringLed j).map (literal isStatic)).toList
      ((elementText? stringLed (j.emptyQuotes stringLed)).map (literal isStatic)).toList
      (elementQuoted isStatic stringLed j) := by
  have hquoted : RelatedAll (LaidOut quoteFree) [literal isStatic (quoteLiteral (lexical j))]
      [literal isStatic (quoteLiteral "")] [⟨isStatic, lexical j⟩] :=
    .single (.quoted isStatic (hasReserved_lexical hj))
  have hnull : Standalone quoteFree (lexical .null) := .of_notMem (by decide) (by decide)
  have hbool : ∀ b, Standalone quoteFree (lexical (.bool b)) :=
    fun b => .of_notMem (by cases b <;> decide) (by cases b <;> decide)
  cases j with
  | arr _ => exact .nil
  | obj _ => exact .nil
  | str s => exact hquoted
  | null =>
    cases stringLed with
    | true => exact hquoted
    | false => exact .single (.unquoted isStatic hnull)
  | bool b =>
    cases stringLed with
    | true => exact hquoted
    | false => exact .single (.unquoted isStatic (hbool b))
  | num n =>
    cases stringLed with
    | true => exact hquoted
    | false => exact .single (.unquoted isStatic (standalone_number n.isNumberChar_of_mem_text))

/-- Empty strings lead an array like the values they stand for. -/
theorem isStringLed_emptyQuotes (js : List Json) :
    isStringLed (js.map (Json.emptyQuotes (isStringLed js))) = isStringLed js := by
  cases hled : isStringLed js with
  | false =>
    have hsame : isStringLed (js.map (Json.emptyQuotes false)) = isStringLed js := by
      simp only [isStringLed, List.findSome?_map]
      congr 2
      funext j
      cases j <;> rfl
    exact hsame.trans hled
  | true =>
    induction js with
    | nil => cases hled
    | cons j js ih =>
      cases j with
      | null | bool | str | num => rfl
      | arr | obj => exact ih hled

theorem laidOut_formatArray (isStatic : Bool) {js : List Json}
    (hjs : ∀ j ∈ js, j.reserved? = none) :
    LaidOut quoteFree (formatArray isStatic js).value
      (formatArray isStatic (js.map (Json.emptyQuotes (isStringLed js)))).value
      (arrayQuoted isStatic js) :=
  (assembly_laidOut quoteFree).formatArray isStatic isStatic (isStringLed_emptyQuotes js)
    fun j hj => relatedAll_element isStatic (isStringLed js) (hjs j hj)

/-- A scalar: in quotes in both texts, or the same in both. -/
theorem laidOut_formatScalar {s : String} {d : Datatype} (hd : Datatype.parse s = .ok d)
    {isStatic : Bool} {j : Json} (h : (Leaf.scalar (some s) isStatic j).Orderly quoteFree) :
    LaidOut quoteFree (formatScalar d isStatic j).value
      (formatScalar d isStatic (quoteEmptier.scalar (some d) isStatic j)).value
      (quotedCollector.scalar d isStatic j) := by
  have hj : j.reserved? = none := by simpa using h.unreserved
  have hlexical := hasReserved_lexical hj
  have hempty := (assembly_laidOut quoteFree).empty
  cases d with
  | string => exact .quoted isStatic hlexical
  | raw =>
    have hraw := Datatype.ofSpelling?_eq_some hd
    have hnotMem : quoteFree = true → '\x27' ∉ (lexical j).toList :=
      fun hq => h.notMem hq _ (by simp [Leaf.unquotedText?, hraw])
    cases isStatic with
    | false => exact .marked hlexical hnotMem
    | true =>
      have heven := h.even (lexical j) (by simp [Leaf.bareText?, hraw])
      exact .bare ⟨⟨hlexical, heven⟩, hnotMem⟩
  | array =>
    have hitems : ∀ k ∈ [j], k.reserved? = none := by simpa using hj
    cases j <;> exact laidOut_formatArray isStatic hitems
  | function => exact hempty
  | number =>
    cases j with
    | num n => exact .unquoted isStatic (standalone_number n.isNumberChar_of_mem_text)
    | _ => exact hempty
  | boolean =>
    cases j with
    | bool b =>
      exact .unquoted isStatic (.of_notMem (by cases b <;> decide) (by cases b <;> decide))
    | _ => exact hempty

theorem laidOut_boundText (b : RowBound) : LaidOut quoteFree (boundText b) (boundText b) [] := by
  have hrepr : ∀ n, Standalone quoteFree (Nat.repr n) :=
    fun n => standalone_number fun c => isNumberChar_of_mem_repr
  cases b with
  | bare rows => exact .bare (hrepr rows)
  | flagged rows isStatic => exact .unquoted isStatic (hrepr rows)

/-! ## Statements -/

theorem quoteEmptier_respects (quoteFree : Bool) :
    quoteEmptier.Respects quotedCollector (Leaf.Orderly quoteFree) (Standalone quoteFree)
      (LaidOut quoteFree) where
  assembly := assembly_laidOut quoteFree
  name h := ⟨⟨by simpa using h.unreserved, h.even _ rfl⟩, fun hq => h.notMem hq _ rfl⟩
  field h := ⟨⟨hasReserved_lexical (by simpa using h.unreserved), h.even _ rfl⟩,
    fun hq => h.notMem hq _ rfl⟩
  scalar hd h := laidOut_formatScalar hd h
  array h := laidOut_formatArray _ fun j hj => by simpa using (h j hj).unreserved
  selected h := laidOut_formatArray _ fun j hj => by simpa using (h j hj).unreserved
  isEmpty_selected js := by simp [quoteEmptier]
  bound _ := laidOut_boundText _

/-- The quoted literals of a query stand in the text of its statement, and the query with empty
quotes compiles to the text with nothing between the same quotes. -/
theorem markup_laidOut {q : Query} (h : ∀ l ∈ q.leaves, l.Orderly quoteFree) (scope : Scope) :
    SameOutcome (LaidOut quoteFree · · q.quotedLiterals) (markup scope q).result
      (markup scope q.emptyQuotes).result :=
  (quoteEmptier_respects quoteFree).markup_related scope q h

end QuerySql
