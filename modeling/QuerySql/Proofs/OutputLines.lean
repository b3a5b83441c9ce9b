import QuerySql.Proofs.DeliveredValues
import QuerySql.Proofs.KeptLiterals
import QuerySql.Proofs.Unions

/-!
# Lines that a command prints

A command that is asked for values prints a statement, a line break, the values as JSON and a line
break. The values have no line break in their text, so they are always the last line. The statement
has its own line breaks left where they are quoted: blanks outside of quotes are made spaces, but a
literal that is static is copied.

* `CommandLine.run_eq_ok`: what a run with values has printed.
* `Query.breaksLines`: a static literal of the query has a line break.
* `printed_lines`: how the statement and the values are found in what is printed.
* `static_literal_breaks_line`: a statement that is printed on two lines.
-/

namespace QuerySql

open Compile Sql

/-! ## What is printed -/

namespace CommandLine

/-- What a request with values prints is a statement and its values. -/
theorem Request.output_eq_ok {r : Request} {options : Options} {document out : String}
    (hparams : r.params = true) (h : r.output options document = .ok out) :
    ∃ statement, (options.generateDocument document).result = .ok statement ∧
      out = statement.sql ++ "\n" ++
        (Json.arr (statement.params.map BindValue.toJson)).text ++ "\n" := by
  rw [Request.output_eq hparams] at h
  cases hcheck : (if r.strict then Request.checkVocabulary options document else .ok ()) with
  | error e =>
    rw [hcheck] at h
    cases h
  | ok _ =>
    rw [hcheck] at h
    cases hresult : (options.generateDocument document).result with
    | error e =>
      rw [hresult] at h
      cases h
    | ok statement =>
      rw [hresult] at h
      cases h
      exact ⟨statement, rfl, rfl⟩

section Run

variable {arguments : List String} {file : String → Except FileError String} {input : String}
  {r : Request} (hr : Request.parse? arguments = some r)

include hr

/-- A run settles its options and prints what the document compiles to. -/
theorem run_eq : run arguments file input =
    (r.options (r.config.map file)).bind fun options =>
      r.output options (r.document.getD input) := by
  unfold run
  rw [hr]
  rfl

/-- A run with values settles its options, generates a statement and prints it. -/
theorem run_eq_ok {out : String} (hparams : r.params = true)
    (h : run arguments file input = .ok out) :
    ∃ options statement, r.options (r.config.map file) = .ok options ∧
      (options.generateDocument (r.document.getD input)).result = .ok statement ∧
      out = statement.sql ++ "\n" ++
        (Json.arr (statement.params.map BindValue.toJson)).text ++ "\n" := by
  rw [run_eq hr] at h
  cases hoptions : r.options (r.config.map file) with
  | error e =>
    rw [hoptions] at h
    cases h
  | ok options =>
    rw [hoptions] at h
    obtain ⟨statement, hstatement, hout⟩ := Request.output_eq_ok hparams h
    exact ⟨options, statement, rfl, hstatement, hout⟩

end Run

end CommandLine

/-- The values of a statement are printed on one line. -/
theorem newline_notMem_text (j : Json) : '\n' ∉ j.text.toList :=
  fun hmem => absurd (Json.printable_text j _ hmem) (by decide)

/-! ## Cutting at line breaks -/

section Cutting

variable {sql line : List Char}

/-- The first line is the statement exactly if the statement has no line break. -/
theorem takeWhile_newline_eq_iff :
    (sql ++ '\n' :: line).takeWhile (· != '\n') = sql ↔ '\n' ∉ sql := by
  induction sql with
  | nil => simp
  | cons c sql ih =>
    by_cases hc : c = '\n'
    · simp [hc]
    · simp [hc, Ne.symm hc, ih]

/-- The last line is told from all that is before it. -/
theorem eq_of_append_newline {sql' line' : List Char} (hline : '\n' ∉ line) (hline' : '\n' ∉ line')
    (h : sql ++ '\n' :: line = sql' ++ '\n' :: line') : sql = sql' ∧ line = line' := by
  -- What one side has beyond the other starts with the line break, and so has it in its line.
  have hnil : ∀ {extra a b : List Char}, '\n' ∉ a → '\n' :: a = extra ++ '\n' :: b →
      extra = [] ∧ a = b := by
    intro extra a b ha heq
    cases extra with
    | nil => exact ⟨rfl, (List.cons.inj heq).2⟩
    | cons c extra =>
      have htail := (List.cons.inj heq).2
      exact absurd (htail ▸ List.mem_append_right _ List.mem_cons_self) ha
  rcases List.append_eq_append_iff.mp h with ⟨extra, rfl, htail⟩ | ⟨extra, rfl, htail⟩
  · obtain ⟨rfl, rfl⟩ := hnil hline htail
    simp
  · obtain ⟨rfl, rfl⟩ := hnil hline' htail
    simp

/-- What is printed, as characters. -/
theorem toList_printed (sql line : String) :
    (sql ++ "\n" ++ line ++ "\n").toList = (sql.toList ++ '\n' :: line.toList) ++ ['\n'] := by
  simp

theorem count_printed {sql line : String} (hline : '\n' ∉ line.toList) :
    (sql ++ "\n" ++ line ++ "\n").toList.count '\n' = sql.toList.count '\n' + 2 := by
  rw [toList_printed, List.count_append, List.count_append, List.count_cons_self,
    List.count_eq_zero.mpr hline, List.count_singleton_self]

theorem eq_of_printed_eq {sql line sql' line' : String} (hline : '\n' ∉ line.toList)
    (hline' : '\n' ∉ line'.toList)
    (h : sql ++ "\n" ++ line ++ "\n" = sql' ++ "\n" ++ line' ++ "\n") :
    sql' = sql ∧ line' = line := by
  have hchars := congrArg String.toList h
  rw [toList_printed, toList_printed, List.append_left_inj] at hchars
  obtain ⟨hsql, hvalues⟩ := eq_of_append_newline hline hline' hchars
  exact ⟨String.toList_inj.mp hsql.symm, String.toList_inj.mp hvalues.symm⟩

theorem takeWhile_printed_eq_iff (sql line : String) :
    (sql ++ "\n" ++ line ++ "\n").toList.takeWhile (· != '\n') = sql.toList ↔
      '\n' ∉ sql.toList := by
  rw [toList_printed, List.append_assoc]
  exact takeWhile_newline_eq_iff

end Cutting

/-! ## Line breaks of a statement -/

/-- A static literal of the query has a line break. -/
def Query.breaksLines (q : Query) : Bool :=
  q.quotedLiterals.any fun l => l.isStatic && l.text.toList.contains '\n'

/-- No line break stands before the first apostrophe. -/
def BreaksQuoted (cs : List Char) : Prop := '\n' ∉ cs.takeWhile (· != '\x27')

instance (cs : List Char) : Decidable (BreaksQuoted cs) :=
  inferInstanceAs (Decidable ('\n' ∉ cs.takeWhile (· != '\x27')))

theorem breaksQuoted_cons {c : Char} {cs : List Char} :
    BreaksQuoted (c :: cs) ↔ c = '\x27' ∨ c ≠ '\n' ∧ BreaksQuoted cs := by
  unfold BreaksQuoted
  by_cases hc : c = '\x27'
  · simp [hc]
  · simp [hc, not_or, @eq_comm _ '\n' c]

theorem BreaksQuoted.append {cs ds : List Char} (hcs : BreaksQuoted cs) (hds : BreaksQuoted ds) :
    BreaksQuoted (cs ++ ds) := by
  induction cs with
  | nil => exact hds
  | cons c cs ih =>
    rw [List.cons_append, breaksQuoted_cons]
    rcases breaksQuoted_cons.mp hcs with hc | ⟨hc, hcs⟩
    · exact .inl hc
    · exact .inr ⟨hc, ih hcs⟩

theorem BreaksQuoted.intercalate {sep : String} (hsep : BreaksQuoted sep.toList) {ss : List String}
    (h : ∀ s ∈ ss, BreaksQuoted s.toList) : BreaksQuoted (sep.intercalate ss).toList := by
  induction ss with
  | nil =>
    rw [String.intercalate_nil]
    decide
  | cons s ss ih =>
    obtain ⟨hs, hss⟩ := List.forall_mem_cons.mp h
    cases ss with
    | nil => simpa using hs
    | cons t ss =>
      rw [String.intercalate_cons_cons, String.toList_append, String.toList_append]
      exact (hs.append hsep).append (ih hss)

/-- Doubling a character brings in no other. -/
theorem Text.mem_double {c d : Char} {cs : List Char} : c ∈ Text.double d cs ↔ c ∈ cs := by
  induction cs with
  | nil => rfl
  | cons e cs ih =>
    rw [Text.double_cons, List.mem_append, List.mem_cons, ih]
    split <;> simp_all

namespace Sql

/-- From outside of quotes, respacing leaves no line break before the first apostrophe. -/
theorem breaksQuoted_respaceParts (gap started : Bool) (ps : List Segment) :
    BreaksQuoted ((respaceParts (.free gap started) ps).map Segment.placeheld) := by
  induction ps generalizing gap started with
  | nil => exact List.not_mem_nil
  | cons p ps ih =>
    have hdue : BreaksQuoted
        (((Mode.free gap started).due.map Segment.plain).map Segment.placeheld) := by
      cases gap <;> cases started <;> decide
    cases p with
    | literal b =>
      have hrest := breaksQuoted_cons.mpr (.inr ⟨by decide, ih false true⟩ : '?' = '\x27' ∨ _)
      simp only [respaceParts, List.map_append, List.map_cons]
      exact hdue.append hrest
    | plain c =>
      rw [respaceParts_plain]
      cases hblank : Text.isBlank c with
      | true =>
        simp only [Mode.step, hblank, if_true, List.map_nil, List.nil_append]
        exact ih true started
      | false =>
        rw [Mode.step_free hblank, List.map_append, List.map_append, List.map_append,
          List.append_assoc]
        refine hdue.append (breaksQuoted_cons.mpr ?_)
        by_cases hc : c = '\x27'
        · exact .inl hc
        · -- The scan goes on outside of quotes, and a line break would be a blank.
          refine .inr ⟨?_, ?_⟩
          · rintro rfl
            cases hblank
          · simpa [hc] using ih false true

/-- A respaced text without apostrophes outside of its quoted literals has no line break there. -/
theorem newline_notMem_respacePieces (gap started : Bool) {ps : List Piece}
    (h : ∀ p ∈ ps, p.isQuoteFree = true) :
    .plain '\n' ∉ respacePieces (.free gap started) ps := by
  induction ps generalizing gap started with
  | nil => exact List.not_mem_nil
  | cons p ps ih =>
    obtain ⟨hp, hps⟩ := List.forall_mem_cons.mp h
    have hdue : .plain '\n' ∉ (Mode.free gap started).due.map Piece.plain := by
      cases gap <;> cases started <;> decide
    rcases p.isLiteral_or_plain with hl | ⟨c, rfl⟩
    · rw [respacePieces_literal _ hl, List.mem_append, List.mem_cons, not_or, not_or]
      refine ⟨hdue, ?_, ih false true hps⟩
      rintro rfl
      cases hl
    · have hc : c ≠ '\x27' := by simpa [Piece.isQuoteFree] using hp
      rw [respacePieces]
      cases hblank : Text.isBlank c with
      | true =>
        simp only [Mode.step, hblank, if_true, List.map_nil, List.nil_append]
        exact ih true started hps
      | false =>
        rw [Mode.step_free hblank, List.map_append, List.mem_append, List.mem_append, not_or,
          not_or]
        refine ⟨⟨hdue, ?_⟩, by simpa [hc] using ih false true hps⟩
        rw [List.map_singleton, List.mem_singleton]
        rintro ⟨rfl⟩
        cases hblank

theorem Piece.newline_mem_placeheld {p : Piece} :
    '\n' ∈ p.placeheld ↔
      p = .plain '\n' ∨ ∃ text, p = .quoted ⟨true, text⟩ ∧ '\n' ∈ text.toList := by
  match p with
  | .plain c => simp [placeheld, eq_comm]
  | .quoted ⟨false, text⟩ => simp [placeheld]
  | .other content => simp [placeheld]
  | .quoted ⟨true, text⟩ =>
    have hquote : ('\n' : Char) ≠ '\x27' := by decide
    simp [placeheld, quoteLiteral, hquote, Text.mem_double]

theorem Piece.newline_mem_flatMap_placeheld {ps : List Piece} (h : .plain '\n' ∉ ps) :
    '\n' ∈ ps.flatMap Piece.placeheld ↔
      ∃ l ∈ ps.filterMap Piece.quoted?, l.isStatic = true ∧ '\n' ∈ l.text.toList := by
  constructor
  · intro hmem
    obtain ⟨p, hp, hbreak⟩ := List.mem_flatMap.mp hmem
    rcases newline_mem_placeheld.mp hbreak with rfl | ⟨text, rfl, htext⟩
    · exact absurd hp h
    · exact ⟨_, List.mem_filterMap.mpr ⟨_, hp, rfl⟩, rfl, htext⟩
  · rintro ⟨⟨isStatic, text⟩, hl, rfl, htext⟩
    obtain ⟨p, hp, hquoted⟩ := List.mem_filterMap.mp hl
    cases p with
    | plain c => cases hquoted
    | other content => cases hquoted
    | quoted literal =>
      cases hquoted
      exact List.mem_flatMap.mpr ⟨_, hp, newline_mem_placeheld.mpr (.inr ⟨text, rfl, htext⟩)⟩

end Sql

/-! ## Statements -/

/-- The statement of a query has no line break before its first apostrophe. -/
theorem breaksQuoted_markup (scope : Scope) {q : Query} (hq : q.Unreserved) :
    Returns (fun text => (∃ parts, Marked text parts) ∧
      BreaksQuoted (Statement.ofMarked text).sql.toList) (markup scope q).result := by
  intro text htext
  have hrelated := eraser_keeps.respects.markup_unspaced scope hq
  rw [htext] at hrelated
  obtain ⟨_, -, unspaced, _, rfl, -, parts, _, hparts, -⟩ := hrelated.of_ok
  refine ⟨⟨_, hparts.normalizeSpacing⟩, ?_⟩
  rw [hparts.normalizeSpacing.ofMarked_eq, String.toList_ofList]
  exact breaksQuoted_respaceParts false false parts

/-- Without apostrophes outside of quotes, the line breaks of a statement are those of the static
literals of its query. -/
theorem newline_mem_markup (scope : Scope) {q : Query} (hq : q.Unreserved) (hfree : q.QuoteFree) :
    Returns (fun text => '\n' ∈ (Statement.ofMarked text).sql.toList ↔ q.breaksLines = true)
      (markup scope q).result := by
  intro text htext
  have hrelated := (quoteEmptier_respects true).markup_unspaced scope
    (q.orderly_of_quoteFree hq hfree)
  rw [htext] at hrelated
  obtain ⟨_, -, unspaced, _, rfl, -, ps, hps, hliterals⟩ := hrelated.of_ok
  have hliterals : ps.filterMap Piece.quoted? = q.quotedLiterals := hliterals
  have hplain := newline_notMem_respacePieces false false (hps.isQuoteFree rfl)
  rw [hps.normalizeSpacing.ofMarked_eq, String.toList_ofList,
    Piece.newline_mem_flatMap_placeheld hplain, filterMap_quoted?_respacePieces, hliterals]
  simp [Query.breaksLines]

theorem mem_intercalate {sep : String} {c : Char} (hsep : c ∉ sep.toList) (ss : List String) :
    c ∈ (sep.intercalate ss).toList ↔ ∃ s ∈ ss, c ∈ s.toList := by
  induction ss with
  | nil => simp
  | cons s ss ih =>
    cases ss with
    | nil => simp
    | cons t ss =>
      rw [String.intercalate_cons_cons, String.toList_append, String.toList_append,
        List.mem_append, List.mem_append, ih]
      simp [hsep]

/-- A union is the texts of its members with a word between them. -/
theorem unionMarkup_eq_ok {limit : Nat} {members : List Query} {marked : String}
    (hne : members ≠ []) (h : (unionMarkup limit members).result = .ok marked) :
    ∃ text : Query → String, (∀ q ∈ members, (markup { limit } q).result = .ok (text q)) ∧
      marked = " UNION ".intercalate (members.map text) := by
  rw [result_unionMarkup limit hne] at h
  cases htexts : (markups limit members).result with
  | error e =>
    rw [htexts] at h
    cases h
  | ok texts =>
    have hmembers : ∀ q ∈ members, ∃ text, (markup { limit } q).result = .ok text :=
      fun q hq => exists_of_markups_eq_ok htexts hq
    choose! text htext using hmembers
    have hall : (markups limit members).result = .ok (members.map text) :=
      markups_eq_ok_iff.mpr
        (List.forall₂_map_right_iff.mpr (List.forall₂_same.mpr htext))
    rw [hall] at h
    cases h
    exact ⟨text, htext, rfl⟩

/-- The statement of a union is joined from those of its members. -/
theorem sql_unionMarkup {members : List Query} {limit : Nat} {text : Query → String}
    (hq : ∀ q ∈ members, q.Unreserved)
    (htext : ∀ q ∈ members, (markup { limit } q).result = .ok (text q)) :
    (Statement.ofMarked (" UNION ".intercalate (members.map text))).sql =
      " UNION ".intercalate (members.map fun q => (Statement.ofMarked (text q)).sql) := by
  have hmarked : ∀ s ∈ members.map text, ∃ parts, Marked s parts := by
    intro s hs
    obtain ⟨q, hm, rfl⟩ := List.mem_map.mp hs
    exact (breaksQuoted_markup _ (hq q hm) _ (htext q hm)).1
  rw [(Marked.intercalate " UNION " (by decide) hmarked).2.2, List.map_map]
  rfl

theorem breaksQuoted_unionMarkup {members : List Query} {limit : Nat} {text : Query → String}
    (hq : ∀ q ∈ members, q.Unreserved)
    (htext : ∀ q ∈ members, (markup { limit } q).result = .ok (text q)) :
    BreaksQuoted (Statement.ofMarked (" UNION ".intercalate (members.map text))).sql.toList := by
  rw [sql_unionMarkup hq htext]
  refine BreaksQuoted.intercalate (by decide) fun s hs => ?_
  obtain ⟨q, hm, rfl⟩ := List.mem_map.mp hs
  exact (breaksQuoted_markup _ (hq q hm) _ (htext q hm)).2

theorem newline_mem_unionMarkup {members : List Query} {limit : Nat} {text : Query → String}
    (hq : ∀ q ∈ members, q.Unreserved) (hfree : ∀ q ∈ members, q.QuoteFree)
    (htext : ∀ q ∈ members, (markup { limit } q).result = .ok (text q)) :
    '\n' ∈ (Statement.ofMarked (" UNION ".intercalate (members.map text))).sql.toList ↔
      ∃ q ∈ members, q.breaksLines = true := by
  rw [sql_unionMarkup hq htext, mem_intercalate (by decide)]
  constructor
  · rintro ⟨s, hs, hbreak⟩
    obtain ⟨q, hm, rfl⟩ := List.mem_map.mp hs
    exact ⟨q, hm, (newline_mem_markup _ (hq q hm) (hfree q hm) _ (htext q hm)).mp hbreak⟩
  · rintro ⟨q, hm, hbreak⟩
    exact ⟨_, List.mem_map.mpr ⟨q, hm, rfl⟩,
      (newline_mem_markup _ (hq q hm) (hfree q hm) _ (htext q hm)).mpr hbreak⟩

/-- What a compile request with values prints is a statement and a last line with its values. The
statement is the first line exactly if it has no line break. Its line breaks are quoted, and without
apostrophes in other texts they are those of static literals. -/
theorem printed_lines {arguments : List String}
    {file : String → Except CommandLine.FileError String} {input out : String}
    {r : CommandLine.Request} (hr : CommandLine.Request.parse? arguments = some r)
    (hparams : r.params = true) (h : CommandLine.run arguments file input = .ok out) :
    ∃ options statement line, r.options (r.config.map file) = .ok options ∧
      (options.generateDocument (r.document.getD input)).result = .ok statement ∧
      line = (Json.arr (statement.params.map BindValue.toJson)).text ∧
      out = statement.sql ++ "\n" ++ line ++ "\n" ∧
      out.toList.count '\n' = statement.sql.toList.count '\n' + 2 ∧
      (∀ sql' line', out = sql' ++ "\n" ++ line' ++ "\n" → '\n' ∉ line'.toList →
        sql' = statement.sql ∧ line' = line) ∧
      (out.toList.takeWhile (· != '\n') = statement.sql.toList ↔ '\n' ∉ statement.sql.toList) ∧
      BreaksQuoted statement.sql.toList ∧
      ∀ members, CommandLine.Request.queries options (r.document.getD input) = .ok members →
        (∀ q ∈ members, q.QuoteFree) →
        ('\n' ∈ statement.sql.toList ↔ ∃ q ∈ members, q.breaksLines = true) := by
  obtain ⟨options, statement, hoptions, hstatement, hout⟩ := CommandLine.run_eq_ok hr hparams h
  obtain ⟨members, marked, hqueries, hne, hmarked, rfl⟩ :=
    Options.generateDocument_eq_ok hstatement
  obtain ⟨text, htext, rfl⟩ := unionMarkup_eq_ok hne hmarked
  have hunreserved : ∀ q ∈ members, q.Unreserved :=
    fun q hq => (Options.admitted_of_queries hqueries q hq).unreserved
  have hline := newline_notMem_text (.arr
    ((Statement.ofMarked (" UNION ".intercalate (members.map text))).params.map BindValue.toJson))
  refine ⟨options, _, _, hoptions, hstatement, rfl, hout, ?_, ?_, ?_,
    breaksQuoted_unionMarkup hunreserved htext, ?_⟩
  · rw [hout]
    exact count_printed hline
  · intro sql' line' hprinted hline'
    exact eq_of_printed_eq hline hline' (hout.symm.trans hprinted)
  · rw [hout]
    exact takeWhile_printed_eq_iff _ _
  · intro members' hqueries' hfree
    rw [hqueries] at hqueries'
    cases hqueries'
    exact newline_mem_unionMarkup hunreserved hfree htext

/-- A query with a static literal of two lines. -/
def twoLineNotes : String :=
  "\x7b\"table\":\"t\",\"conditions\":[\x7b\"clause\":\"a\",\"operator\":\"=\"," ++
    "\"datatype\":\"STRING\",\"isStatic\":true,\"value\":\"x\\ny\"\x7d]\x7d"

theorem result_twoLineNotes : (Options.generateDocument {} twoLineNotes).result =
    .ok ⟨"SELECT * FROM t WHERE a = 'x\ny'", []⟩ :=
  eq_ok_of_toOption (by decide +kernel)

/-- A command that compiles the document and asks for values. -/
def printNotes : List String := ["compile", "--params", twoLineNotes]

/-- What the command asks for. -/
def notesRequest : CommandLine.Request := { document := some twoLineNotes, params := true }

theorem parse?_printNotes : CommandLine.Request.parse? printNotes = some notesRequest := by
  decide +kernel

theorem run_printNotes : CommandLine.run printNotes (fun _ => .error .notFound) "" =
    .ok "SELECT * FROM t WHERE a = 'x\ny'\n[]\n" := by
  have hprinted := @CommandLine.Request.output_params notesRequest {} _ _ result_twoLineNotes rfl
    (fun h => by cases h)
  have htext : "SELECT * FROM t WHERE a = 'x\ny'" ++ "\n" ++
      (Json.arr (([] : List BindValue).map BindValue.toJson)).text ++ "\n" =
        "SELECT * FROM t WHERE a = 'x\ny'\n[]\n" := by decide +kernel
  have hoptions : notesRequest.options (notesRequest.config.map fun _ => .error .notFound) =
      .ok {} := rfl
  have hdocument : notesRequest.document.getD "" = twoLineNotes := rfl
  rw [CommandLine.run_eq parse?_printNotes, hoptions, Except.bind, hdocument, hprinted, htext]

theorem printed_lines_printNotes :
    ∃ statement, (Options.generateDocument {} twoLineNotes).result = .ok statement ∧
      '\n' ∈ statement.sql.toList ∧ BreaksQuoted statement.sql.toList ∧
      ∀ line, "SELECT * FROM t WHERE a = 'x\ny'\n[]\n" = statement.sql ++ "\n" ++ line ++ "\n" →
        '\n' ∉ line.toList → line = "[]" := by
  obtain ⟨options, statement, line, hoptions, hstatement, hline, -, -, hlast, -, hquoted, -⟩ :=
    printed_lines parse?_printNotes rfl run_printNotes
  cases hoptions
  cases hstatement.symm.trans result_twoLineNotes
  refine ⟨_, hstatement, by decide +kernel, hquoted, fun line' hprinted hline' => ?_⟩
  rw [(hlast _ _ hprinted hline').2, hline]
  decide +kernel

/-- A static literal of two lines is printed on two lines, and the first of them is not the
statement. -/
theorem static_literal_breaks_line :
    CommandLine.run printNotes (fun _ => .error .notFound) "" =
        .ok "SELECT * FROM t WHERE a = 'x\ny'\n[]\n" ∧
      (Options.generateDocument {} twoLineNotes).result =
        .ok ⟨"SELECT * FROM t WHERE a = 'x\ny'", []⟩ ∧
      "SELECT * FROM t WHERE a = 'x\ny'\n[]\n".toList.takeWhile (· != '\n') =
        "SELECT * FROM t WHERE a = 'x".toList :=
  ⟨run_printNotes, result_twoLineNotes, by decide +kernel⟩

end QuerySql
