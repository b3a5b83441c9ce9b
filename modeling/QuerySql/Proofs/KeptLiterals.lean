import QuerySql.Proofs.QuotedLiterals

/-!
# Respacing keeps quoted literals

A statement is respaced as a whole, and a subquery once more with each statement around it. Where
the apostrophes of every text that stands bare come in pairs, this leaves the blanks in quoted
literals alone: each of them is delivered as it was given, in the text or as a value of its own. An
apostrophe without a partner pairs with the first one of the next literal, whose blanks are then
respaced.

* `generate_keeps_quotedLiterals`: every quoted literal of a query is found in its statement.
* `unpaired_apostrophe_respaces_literal`: an apostrophe without a partner changes a literal.
-/

namespace QuerySql

open Compile Sql

namespace Sql.Piece

/-- The characters of a piece in the text with placeholders. -/
def placeheld : Piece → List Char
  | .plain c => [c]
  | .quoted ⟨true, text⟩ => (quoteLiteral text).toList
  | .quoted ⟨false, _⟩ | .other _ => ['?']

/-- The value of a literal that is bound. -/
def bindValue? : Piece → Option BindValue
  | .quoted ⟨false, text⟩ => some (.string text)
  | .other content => some (.ofLexical (String.ofList content))
  | .plain _ | .quoted ⟨true, _⟩ => none

theorem map_placeheld_segments (p : Piece) : p.segments.map Segment.placeheld = p.placeheld := by
  match p with
  | .plain c | .quoted ⟨false, text⟩ | .other content => rfl
  | .quoted ⟨true, text⟩ =>
    simp [segments, placeheld, quoteLiteral, quotedForm, Segment.placeheld, Function.comp_def]

theorem filterMap_bindValue?_segments (p : Piece) :
    p.segments.filterMap Segment.bindValue? = p.bindValue?.toList := by
  match p with
  | .plain c | .other content => rfl
  | .quoted ⟨true, text⟩ => exact filterMap_bindValue?_plain _
  | .quoted ⟨false, text⟩ =>
    have hvalue := BindValue.ofLexical_quoteLiteral text
    simp only [segments, bindValue?, List.filterMap_cons, List.filterMap_nil, Segment.bindValue?]
    rw [← hvalue]
    rfl

end Sql.Piece

/-- The statement of a text, piece by piece. -/
theorem Layout.ofMarked_eq {quoteFree : Bool} {s t : String} {ps : List Piece}
    (h : Layout quoteFree s t ps) :
    Statement.ofMarked s =
      ⟨String.ofList (ps.flatMap Piece.placeheld), ps.filterMap Piece.bindValue?⟩ := by
  rw [h.marked.ofMarked_eq, List.map_flatMap, List.filterMap_flatMap]
  simp only [Piece.map_placeheld_segments, Piece.filterMap_bindValue?_segments]
  rw [List.filterMap_eq_flatMap_toList]

/-- If the apostrophes of every bare text are even in number, then all quoted literals of a query
are in its statement as they were given, in order and at every depth. A static one stands in the
text in quotes, and any other has a placeholder and its string as the value of it. -/
theorem generate_keeps_quotedLiterals {options : Options} {q : Query} {st : Statement}
    (hq : q.Unreserved) (hbalanced : q.Balanced)
    (hst : (options.generate q).result = .ok st) :
    ∃ ps : List Piece, ps.filterMap Piece.quoted? = q.quotedLiterals ∧
      st.sql = String.ofList (ps.flatMap Piece.placeheld) ∧
      st.params = ps.filterMap Piece.bindValue? := by
  obtain ⟨marked, hmarked, -, rfl⟩ := options.generate_eq_ok hst
  have hlaid := markup_laidOut (q.orderly_of_balanced hq hbalanced) { limit := options.maxDepth }
  rw [hmarked] at hlaid
  obtain ⟨emptied, -, ps, hps, hquoted⟩ := hlaid.of_ok
  rw [hps.ofMarked_eq]
  exact ⟨ps, hquoted, rfl, rfl⟩

/-- A subquery with a static literal, an alias, and a list that is led by a string. -/
def annotatedNotes (table aliasName note : String) : Query where
  table := "t"
  selection := some [
    .detail
      { aliasName
        subquery := some {
          table
          conditions := some [
            .comparison none
              { clause := some (.column "x"), operator := "=", datatype := some "STRING",
                isStatic := true, value := some (.literal (.str note)) }] } }]
  conditions := some [
    .comparison none
      { clause := some (.column "w"), operator := "IN", datatype := some "ARRAY",
        value := some (.array [.str "p  q", .num (.integer 1)]) }]

theorem generate_keeps_quotedLiterals_annotatedNotes :
    (annotatedNotes "'a  b'" "'n  m'" "it's  me").quotedLiterals =
        [⟨true, "it's  me"⟩, ⟨false, "p  q"⟩, ⟨false, "1"⟩] ∧
      ∃ (st : Statement) (ps : List Piece),
        (Options.generate {} (annotatedNotes "'a  b'" "'n  m'" "it's  me")).result = .ok st ∧
        st.sql = "SELECT (SELECT * FROM 'a  b' WHERE x = 'it''s  me') AS 'n  m' FROM t " ++
          "WHERE w IN (?, ?)" ∧
        st.params = [.string "p  q", .string "1"] ∧
        ps.filterMap Piece.quoted? = (annotatedNotes "'a  b'" "'n  m'" "it's  me").quotedLiterals ∧
        st.sql = String.ofList (ps.flatMap Piece.placeheld) := by
  have hst : (Options.generate {} (annotatedNotes "'a  b'" "'n  m'" "it's  me")).result =
      .ok ⟨"SELECT (SELECT * FROM 'a  b' WHERE x = 'it''s  me') AS 'n  m' FROM t " ++
        "WHERE w IN (?, ?)", [.string "p  q", .string "1"]⟩ :=
    eq_ok_of_toOption (by decide +kernel)
  obtain ⟨ps, hquoted, hsql, -⟩ :=
    generate_keeps_quotedLiterals (by decide +kernel) (by decide +kernel) hst
  exact ⟨by decide +kernel, _, ps, hst, rfl, rfl, hquoted, hsql⟩

/-- The name of the table has an apostrophe without a partner. -/
def rowsOfClock : Query where
  table := "o'clock"
  conditions := some [
    .comparison none
      { clause := some (.column "owner"), operator := "=", datatype := some "STRING",
        value := some (.literal (.str "a  b")) }]

/-- An apostrophe without a partner makes respacing go into the literal after it. -/
theorem unpaired_apostrophe_respaces_literal :
    rowsOfClock.Unreserved ∧ rowsOfClock.quotedLiterals = [⟨false, "a  b"⟩] ∧
      (Options.generate {} rowsOfClock).result =
        .ok ⟨"SELECT * FROM o'clock WHERE owner = ?", [.string "a b"]⟩ :=
  ⟨by decide +kernel, by decide +kernel, eq_ok_of_toOption (by decide +kernel)⟩

end QuerySql
