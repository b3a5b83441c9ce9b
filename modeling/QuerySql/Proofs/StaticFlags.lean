import QuerySql.Proofs.Inlining
import QuerySql.Proofs.Literals

/-!
# Static literals

Whether a literal is static says only whether it is bound as a parameter. With every literal written
into the text, a query that has no raw value compiles to the same text whatever its flags are: to
that of the query with all its literals static.

* `Query.SameUpToFlags`: the queries are equal once all literals are static.
* `Query.RawFree`: no value of the query is raw.
* `staticFlags_keeps`: the text of a static literal is that of the literal, written in.
* `build_eq_of_sameUpToFlags`: such queries are built alike.
-/

namespace QuerySql

open Compile Sql

/-- Makes all literals and bounds static. -/
def staticFlags : LiteralMap where
  flag _ := true
  scalar _ _ j := j
  item _ j := j
  bound
    | .bare rows => .bare rows
    | .flagged rows _ => .flagged rows true

/-- The queries differ in flags only. -/
def Query.SameUpToFlags (q₁ q₂ : Query) : Prop :=
  q₁.mapLiterals staticFlags = q₂.mapLiterals staticFlags

/-- The leaf is no raw value. -/
def Leaf.isRawFree : Leaf → Bool
  | .scalar datatype _ _ => Datatype.ofSpelling? datatype != some .raw
  | _ => true

/-- No value is raw: neither that of a comparison nor an expectation or a default. -/
def Query.RawFree (q : Query) : Prop := ∀ l ∈ q.leaves, l.isRawFree = true

instance (q : Query) : Decidable q.RawFree :=
  inferInstanceAs (Decidable (∀ l ∈ q.leaves, l.isRawFree = true))

/-! ## Single literals -/

theorem inlined_quoteLiteral (isStatic : Bool) {s : String} (hs : hasReserved s = false) :
    Inlined (literal isStatic (quoteLiteral s)) (quoteLiteral s) := by
  refine .literal isStatic (hasReserved_quoteLiteral hs) ?_
  simp only [quoteLiteral, String.toList_ofList]
  exact .quoted s.toList

/-- Numbers are words. -/
theorem inlined_number (isStatic : Bool) {s : String} (hne : s.toList ≠ [])
    (h : ∀ c ∈ s.toList, isNumberChar c = true) : Inlined (literal isStatic s) s := by
  have hletters : ∀ c ∈ ['A', 'N', 'D', 'O', 'R'], isNumberChar c = false := by decide
  have haloof : Aloof s.toList := by
    obtain ⟨c, cs, hcs⟩ := List.exists_cons_of_ne_nil hne
    rw [hcs] at h ⊢
    refine aloof_cons (fun hc => ?_) cs
    exact absurd (h c List.mem_cons_self) (by simp [hletters c hc])
  refine .literal isStatic (hasReserved_eq_false.mpr fun c hc => (isNumberChar_ne (h c hc)).1) ?_
  exact .word hne (fun c hc => ⟨(isNumberChar_ne (h c hc)).2.2, (isNumberChar_ne (h c hc)).2.1⟩)
    haloof

theorem inlined_bool (isStatic b : Bool) :
    Inlined (literal isStatic (lexical (.bool b))) (lexical (.bool b)) := by
  have haloof : Aloof (lexical (.bool b)).toList := by
    cases b
    · exact aloof_cons (by decide) _
    · exact aloof_cons (by decide) _
  exact .literal isStatic (by cases b <;> decide)
    (.word (by cases b <;> decide) (by cases b <;> decide) haloof)

theorem inlined_null (isStatic : Bool) :
    Inlined (literal isStatic (lexical .null)) (lexical .null) := by
  have haloof : Aloof (lexical .null).toList := by
    -- `ND` shares its first letter with the word, and no more.
    intro operand w hw hne
    cases operand with
    | and =>
      have hw : w <:+ ['A', 'N', 'D'] := hw
      simp only [List.suffix_cons_iff, List.suffix_nil] at hw
      rcases hw with rfl | rfl | rfl | rfl <;> first | decide | exact absurd rfl hne
    | or =>
      have hw : w <:+ ['O', 'R'] := hw
      simp only [List.suffix_cons_iff, List.suffix_nil] at hw
      rcases hw with rfl | rfl | rfl <;> first | decide | exact absurd rfl hne
  exact .literal isStatic (by decide) (.word (by decide) (by decide) haloof)

theorem FloatLayout.decimal_ne_nil (layout : FloatLayout) (ds : List Char) (power : Int) :
    layout.decimal ds power ≠ [] := by
  unfold FloatLayout.decimal
  simp only
  split
  · split
    · simp
    · split <;> simp
  · simp

theorem toList_repr_ne_nil (n : Nat) : (Nat.repr n).toList ≠ [] := by
  rw [Nat.toList_repr]
  exact Nat.toDigits_ne_nil

theorem Number.toList_text_ne_nil (n : Number) : n.text.toList ≠ [] := by
  cases n with
  | integer n =>
    simp only [Number.text, integerText]
    split
    · simp [String.toList_append]
    · exact toList_repr_ne_nil _
  | float x =>
    cases x with
    | infinite negative => cases negative <;> decide
    | finite negative m e =>
      simp only [Number.text, Binary64.text, String.toList_ofList]
      split
      · exact List.cons_ne_nil _ _
      · exact FloatLayout.decimal_ne_nil _ _ _

/-- An element of an array and the static one. -/
theorem relatedAll_static (isStatic stringLed : Bool) {j : Json} (hj : j.reserved? = none) :
    RelatedAll (fun s t (_ : List Empty) => Inlined s t)
      ((elementText? stringLed j).map (literal isStatic)).toList
      ((elementText? stringLed j).map (literal true)).toList [] := by
  have hquoted := inlined_quoteLiteral isStatic (hasReserved_lexical hj)
  cases j with
  | arr | obj => exact .nil
  | str s => exact .single hquoted
  | null =>
    cases stringLed with
    | true => exact .single hquoted
    | false => exact .single (inlined_null isStatic)
  | bool b =>
    cases stringLed with
    | true => exact .single hquoted
    | false => exact .single (inlined_bool isStatic b)
  | num n =>
    cases stringLed with
    | true => exact .single hquoted
    | false =>
      exact .single (inlined_number isStatic n.toList_text_ne_nil n.isNumberChar_of_mem_text)

theorem inlined_formatArray (isStatic : Bool) {js : List Json}
    (hjs : ∀ j ∈ js, j.reserved? = none) :
    Inlined (formatArray isStatic js).value (formatArray true js).value := by
  have hrelated := fragmentRelation_inlined.assembly.formatArray isStatic true (f := fun j => j)
    (by rw [List.map_id']) fun j hj => relatedAll_static isStatic (isStringLed js) (hjs j hj)
  rwa [List.map_id'] at hrelated

/-- A value and the static one, unless it is raw. -/
theorem inlined_formatScalar {d : Datatype} (hd : d ≠ .raw) (isStatic : Bool) {j : Json}
    (hj : j.reserved? = none) :
    Inlined (formatScalar d isStatic j).value (formatScalar d true j).value := by
  have hempty : Inlined "" "" := fragmentRelation_inlined.bare (by decide)
  cases d with
  | string => exact inlined_quoteLiteral isStatic (hasReserved_lexical hj)
  | raw => exact absurd rfl hd
  | array => exact inlined_formatArray isStatic fun k hk => by rwa [List.mem_singleton.mp hk]
  | function => exact hempty
  | number =>
    cases j with
    | num n => exact inlined_number isStatic n.toList_text_ne_nil n.isNumberChar_of_mem_text
    | _ => exact hempty
  | boolean =>
    cases j with
    | bool b => exact inlined_bool isStatic b
    | _ => exact hempty

theorem inlined_boundText (b : RowBound) :
    Inlined (boundText b) (boundText (staticFlags.bound b)) := by
  have hrows : ∀ isStatic n, Inlined (literal isStatic (Nat.repr n)) (Nat.repr n) :=
    fun isStatic n => inlined_number isStatic (toList_repr_ne_nil n)
      fun c => isNumberChar_of_mem_repr
  match b with
  | .bare n => exact hrows true n
  | .flagged n isStatic => exact hrows isStatic n

/-- Static literals are written like the literals they stand for, once those are written in. -/
theorem staticFlags_keeps :
    staticFlags.Keeps (fun l => l.isUnreserved = true ∧ l.isRawFree = true) Inlined where
  relation := fragmentRelation_inlined
  unreserved h := h.1
  scalar := by
    rintro s d isStatic j hd ⟨hj, hraw⟩
    rw [Leaf.isUnreserved_scalar] at hj
    refine inlined_formatScalar ?_ isStatic hj
    simpa [Leaf.isRawFree, Datatype.ofSpelling?_eq_some hd] using hraw
  items := by
    intro isStatic js hjs
    have hsame : js.map (staticFlags.item isStatic) = js := List.map_id' js
    rw [hsame]
    exact inlined_formatArray isStatic fun j hj => (Leaf.isUnreserved_item _ _).mp (hjs j hj).1
  bound _ := inlined_boundText _

/-! ## Queries with other flags -/

/-- The leaf with its literal static. -/
def Leaf.static : Leaf → Leaf
  | .item _ j => .item true j
  | .scalar datatype _ j => .scalar datatype true j
  | .bound b => .bound (staticFlags.bound b)
  | l => l

theorem staticFlags_fixes : staticFlags.revision.Fixes (fun l => some l.static) where
  items _ _ := by simp [LiteralMap.revision, staticFlags, Leaf.static]
  selected _ := by simp [LiteralMap.revision]
  bound b := by cases b <;> rfl
  scalar _ _ _ := rfl

theorem Query.SameUpToFlags.leaves_eq {q q' : Query} (h : q.SameUpToFlags q') :
    q.leaves.map Leaf.static = q'.leaves.map Leaf.static := by
  have hfix : ∀ q : Query, (q.mapLiterals staticFlags).leaves.map Leaf.static =
      q.leaves.map Leaf.static := by
    intro q
    have hq := staticFlags_fixes.filterMap_leaves q
    rwa [List.filterMap_eq_map'] at hq
  rw [← hfix q, ← hfix q', h]

theorem Leaf.static_isUnreserved (l : Leaf) : l.static.isUnreserved = l.isUnreserved := by
  cases l <;> rfl

theorem Leaf.static_isRawFree (l : Leaf) : l.static.isRawFree = l.isRawFree := by
  cases l <;> rfl

/-- What is assumed of a query holds of it with other flags. -/
theorem Query.SameUpToFlags.forall_leaves {q q' : Query} (h : q.SameUpToFlags q') {p : Leaf → Bool}
    (hp : ∀ l, p l.static = p l) (hq : ∀ l ∈ q.leaves, p l = true) :
    ∀ l ∈ q'.leaves, p l = true := by
  intro l hl
  have hmem : l.static ∈ q.leaves.map Leaf.static := by
    rw [h.leaves_eq]
    exact List.mem_map_of_mem hl
  obtain ⟨l', hl', heq⟩ := List.mem_map.mp hmem
  rw [← hp l, ← heq, hp l']
  exact hq l' hl'

/-- A query is built like the query with all literals static. -/
theorem build_staticFlags (options : Options) {q : Query} (hq : q.Unreserved) (hraw : q.RawFree) :
    (options.build q).result = (options.build (q.mapLiterals staticFlags)).result := by
  have hrelated := staticFlags_keeps.markup_related { limit := options.maxDepth } q
    fun l hl => ⟨hq l hl, hraw l hl⟩
  rw [options.result_build, options.result_build]
  revert hrelated
  generalize (markup { limit := options.maxDepth } q).result = x
  generalize (markup { limit := options.maxDepth } (q.mapLiterals staticFlags)).result = y
  intro hrelated
  cases hrelated with
  | depth limit => rfl
  | ok h =>
    simp only [Except.bind, Options.rejects, h.unmark_eq, h.unmark_right]

/-- Flags say nothing but which literals are bound: without raw values a query is built alike with
any of them, to the same text or with the same error. -/
theorem build_eq_of_sameUpToFlags (options : Options) {q q' : Query} (hq : q.Unreserved)
    (hraw : q.RawFree) (hsame : q.SameUpToFlags q') :
    (options.build q').result = (options.build q).result := by
  have hq' : q'.Unreserved := hsame.forall_leaves Leaf.static_isUnreserved hq
  have hraw' : q'.RawFree := hsame.forall_leaves Leaf.static_isRawFree hraw
  rw [build_staticFlags options hq hraw, build_staticFlags options hq' hraw', hsame]

/-- The first rows by owner and parent, all literals with the same flag. The apostrophe in the name
of the table is closed by the first one of a literal, so the blanks in that are respaced. -/
def rowsOfParents (isStatic : Bool) : Query where
  table := "o'clock"
  conditions := some [
    .comparison none
      { clause := some (.column "owner"), operator := "=", datatype := some "STRING", isStatic,
        value := some (.literal (.str "a  'b")) },
    .comparison (some .and)
      { clause := some (.column "parent"), operator := "IN",
        value := some (.subquery { table := "parents", limit := some (.flagged 3 isStatic) }) }]
  limit := some (.flagged 5 isStatic)

theorem build_eq_rowsOfParents :
    (Options.build {} (rowsOfParents true)).result = .ok
      ("SELECT * FROM o'clock WHERE owner = 'a ''b' AND parent IN " ++
        "(SELECT * FROM parents LIMIT 3) LIMIT 5") ∧
    (Options.build {} (rowsOfParents false)).result =
      (Options.build {} (rowsOfParents true)).result := by
  have hsame : (rowsOfParents true).SameUpToFlags (rowsOfParents false) := rfl
  exact ⟨eq_ok_of_toOption (by decide +kernel),
    build_eq_of_sameUpToFlags {} (by decide +kernel) (by decide +kernel) hsame⟩

end QuerySql
