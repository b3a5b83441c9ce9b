import QuerySql.Proofs.Parameterization

/-!
# The marked text of a statement

What is known of the text of a whole statement, single or union, before its literals are written
in or taken out: it is well marked, its literals stand apart, and it starts with the `S` of
`SELECT`. Compiling a query without reserved characters ends in such a text or at the limit of
depth.

* `StatementText s parts`: the text `s` of a statement consists of `parts`.
* `compiled_markup`, `compiled_unionMarkup`: queries and unions compile to such texts.
-/

namespace QuerySql

open Compile Sql

/-- The marked text of a statement and its parts. -/
structure StatementText (s : String) (parts : List Segment) : Prop where
  marked : Marked s parts
  delimited : Delimited parts
  head : parts.head? = some (.plain 'S')

/-- The outcome is the marked text of a statement, or compiling stopped at the limit of depth. -/
inductive Compiled : Except Error String → Prop
  | depth (limit : Nat) : Compiled (.error (.depthExceeded limit))
  | text {s : String} {parts : List Segment} : StatementText s parts → Compiled (.ok s)

/-! ## The first word -/

theorem head?_intercalate (sep : String) {s : String} (ss : List String) {c : Char}
    (h : s.toList.head? = some c) : (sep.intercalate (s :: ss)).toList.head? = some c := by
  cases ss with
  | nil => simpa using h
  | cons t ss =>
    rw [String.intercalate_cons_cons, String.toList_append, String.toList_append, List.append_assoc,
      List.head?_append, h]
    rfl

theorem head?_normalizeSpacing {s : String} {c : Char} (h : s.toList.head? = some c)
    (hc : Text.isBlank c = false) : (normalizeSpacing s).toList.head? = some c := by
  obtain ⟨cs, hs⟩ := List.head?_eq_some_iff.mp h
  rw [normalizeSpacing, String.toList_ofList, hs]
  simp [respace, hc]

theorem head?_text (select : Select) : select.text.toList.head? = some 'S' := by
  refine head?_normalizeSpacing ?_ (by decide)
  rw [joinNonempty, Select.clauses, List.filter_cons_of_pos (by simp)]
  exact head?_intercalate " " _ (by simp)

theorem head?_markup (scope : Scope) (q : Query) :
    Returns (fun s => s.toList.head? = some 'S') (markup scope q).result := by
  obtain ⟨table, selection, joins, conditions, groupBy, having, orderBy, limit, offset⟩ := q
  rw [result_markup]
  cases (selectionTexts scope selection).result with
  | error e => exact .error _ e
  | ok columns =>
    cases (filterText scope conditions).result with
    | error e => exact .error _ e
    | ok conditions =>
      cases (filterText scope having).result with
      | error e => exact .error _ e
      | ok having => exact .ok (head?_text _)

theorem head?_unionMarkup (limit : Nat) {members : List Query} (hne : members ≠ []) :
    Returns (fun s => s.toList.head? = some 'S') (unionMarkup limit members).result := by
  obtain ⟨q, rest, rfl⟩ := List.exists_cons_of_ne_nil hne
  rw [result_unionMarkup limit hne, result_markups_cons]
  refine Returns.bind (P := fun ss => (" UNION ".intercalate ss).toList.head? = some 'S') ?_
    fun texts ht => .ok ht
  refine (head?_markup _ q).bind fun text ht => ?_
  cases (markups limit rest).result with
  | error e => exact .error _ e
  | ok texts => exact .ok (head?_intercalate _ _ ht)

/-! ## Whole statements -/

theorem StatementText.of_alike {s t : String} (h : Alike s t) (hs : s.toList.head? = some 'S') :
    ∃ parts, StatementText s parts := by
  obtain ⟨parts, _, hm, -, -, hd⟩ := h
  refine ⟨parts, hm, hd, ?_⟩
  rw [hm.toList_eq] at hs
  cases parts with
  | nil => cases hs
  | cons p parts =>
    cases p with
    | plain c =>
      have hc : c = 'S' := by simpa [Segment.marked] using hs
      rw [hc]
      rfl
    | literal b => simp [Segment.marked, openMarker_eq] at hs

theorem Compiled.of_sameOutcome {x y : Except Error String} (h : SameOutcome Alike x y)
    (hx : Returns (fun s => s.toList.head? = some 'S') x) : Compiled x := by
  cases h with
  | depth limit => exact .depth limit
  | ok h =>
    obtain ⟨parts, hp⟩ := StatementText.of_alike h (hx _ rfl)
    exact .text hp

theorem Compiled.eq_depthExceeded {x : Except Error String} (h : Compiled x) {e : Error}
    (he : x = .error e) : ∃ limit, e = .depthExceeded limit := by
  cases h with
  | depth limit =>
    cases he
    exact ⟨limit, rfl⟩
  | text hs => cases he

/-- A query without reserved characters compiles to the text of a statement. -/
theorem compiled_markup {scope : Scope} {q : Query} (hq : q.Unreserved) :
    Compiled (markup scope q).result :=
  .of_sameOutcome (markup_erased_alike scope hq) (head?_markup scope q)

/-- A union of queries without reserved characters compiles to the text of a statement. -/
theorem compiled_unionMarkup {limit : Nat} {members : List Query} (hne : members ≠ [])
    (hq : ∀ q ∈ members, q.Unreserved) : Compiled (unionMarkup limit members).result :=
  .of_sameOutcome (eraser_keeps.unionMarkup_related limit hne hq) (head?_unionMarkup limit hne)

end QuerySql
