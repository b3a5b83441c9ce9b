import QuerySql.Proofs.KeptLiterals

/-!
# Quoted literals cannot break out

SQL text is read by one rule for literals: from an apostrophe up to the next one that is not
doubled, where two apostrophes stand for one. If there is no apostrophe outside of quoted literals,
then the statement of a query reads as these literals with other characters around them, whatever
the strings are, and other strings in their place change nothing of what is around them.

* `Sql.tokens?` reads a text by the rule.
* `Layout.tokens?_unmark`: a text reads as its pieces.
* `build_confines_quotedLiterals`: the literals of a statement are those of its query.
-/

namespace QuerySql

namespace Sql

/-! ## Reading -/

/-- What a text consists of to a reader: literals, and the characters outside of them. -/
inductive Token where
  | char (c : Char)
  | literal (content : String)
  deriving DecidableEq

/-- The content of a literal. -/
def Token.content? : Token → Option String
  | .char _ => none
  | .literal content => some content

/-- The character, outside of literals. -/
def Token.char? : Token → Option Char
  | .char c => some c
  | .literal _ => none

/-- The token with nothing in it if it is a literal. -/
def Token.emptied : Token → Token
  | .char c => .char c
  | .literal _ => .literal ""

mutual

/-- Reads a text, unless it ends within a literal. -/
def readText : List Char → Option (List Token)
  | [] => some []
  | '\x27' :: cs =>
    (readLiteral cs).map fun (content, rest) => .literal (String.ofList content) :: rest
  | c :: cs => (readText cs).map (.char c :: ·)

/-- Reads a text from within a literal: the rest of its content, and what follows it. -/
def readLiteral : List Char → Option (List Char × List Token)
  | [] => none
  | '\x27' :: '\x27' :: cs => (readLiteral cs).map fun (content, rest) => ('\x27' :: content, rest)
  | '\x27' :: cs => (readText cs).map ([], ·)
  | c :: cs => (readLiteral cs).map fun (content, rest) => (c :: content, rest)

end

/-- The literals of a text and the characters outside of them, unless it ends within a literal. -/
def tokens? (sql : String) : Option (List Token) := readText sql.toList

theorem readText_cons {c : Char} (hc : c ≠ '\x27') (cs : List Char) :
    readText (c :: cs) = (readText cs).map (.char c :: ·) := by
  rw [readText]
  rintro rfl
  exact hc rfl

theorem readLiteral_cons {c : Char} (hc : c ≠ '\x27') (cs : List Char) :
    readLiteral (c :: cs) = (readLiteral cs).map fun (content, rest) => (c :: content, rest) := by
  rw [readLiteral]
  · rintro ds rfl
    exact fun _ => hc rfl
  · rintro rfl
    exact hc rfl

/-- Characters outside of literals are read one by one. -/
theorem readText_append {cs : List Char} (h : '\x27' ∉ cs) (ds : List Char) :
    readText (cs ++ ds) = (readText ds).map (cs.map .char ++ ·) := by
  induction cs with
  | nil => simp
  | cons c cs ih =>
    simp only [List.mem_cons, not_or] at h
    rw [List.cons_append, readText_cons (Ne.symm h.1), ih h.2, Option.map_map]
    rfl

/-- The content of a literal is read up to an apostrophe that is not doubled. -/
theorem readLiteral_double (content : List Char) {rest : List Char}
    (h : rest.head? ≠ some '\x27') :
    readLiteral (Text.double '\x27' content ++ '\x27' :: rest) =
      (readText rest).map (content, ·) := by
  induction content with
  | nil =>
    cases rest with
    | nil => rfl
    | cons d rest =>
      have hd : d ≠ '\x27' := fun he => h (by rw [he]; rfl)
      simp only [Text.double, List.flatMap_nil, List.nil_append]
      rw [readLiteral]
      rintro ds he
      exact hd (List.cons.inj he).1
  | cons c content ih =>
    rw [Text.double_cons]
    by_cases hc : c = '\x27'
    · subst hc
      simp only [if_true, List.cons_append, List.nil_append]
      rw [readLiteral, ih, Option.map_map]
      rfl
    · simp only [hc, if_false, List.cons_append, List.nil_append]
      rw [readLiteral_cons hc, ih, Option.map_map]
      rfl

/-! ## Reading pieces -/

namespace Piece

/-- The characters of a piece with its literal written in. -/
def written : Piece → List Char
  | .plain c => [c]
  | .quoted literal => quotedForm literal.text.toList
  | .other content => content

/-- What a reader sees of a piece. -/
def tokens : Piece → List Token
  | .plain c => [.char c]
  | .quoted literal => [.literal literal.text]
  | .other content => content.map .char

theorem flatMap_written_segments (p : Piece) : p.segments.flatMap Segment.written = p.written := by
  match p with
  | .plain c => rfl
  | .quoted ⟨true, text⟩ => simp [segments, written, List.flatMap_map, Segment.written]
  | .quoted ⟨false, text⟩ => simp [segments, written, Segment.written]
  | .other content => simp [segments, written, Segment.written]

theorem tokens_emptied (p : Piece) : p.emptied.tokens = p.tokens.map Token.emptied := by
  cases p with
  | plain c => rfl
  | quoted literal => rfl
  | other content => simp [emptied, tokens, Token.emptied]

theorem filterMap_content?_tokens (p : Piece) :
    p.tokens.filterMap Token.content? = (p.quoted?.map QuotedLiteral.text).toList := by
  cases p with
  | plain c => rfl
  | quoted literal => rfl
  | other content => simp [tokens, quoted?, Token.content?]

theorem isQuoteFree_emptied (p : Piece) : p.emptied.isQuoteFree = p.isQuoteFree := by
  cases p <;> rfl

/-- What a literal is does not count for what stands apart, only that it is one. -/
theorem delimited_map {g : Piece → Piece} (hplain : ∀ c, g (.plain c) = .plain c)
    (hliteral : ∀ p : Piece, p.isLiteral = true → (g p).isLiteral = true) {ps : List Piece}
    (h : Delimited (ps.map segment)) : Delimited ((ps.map g).map segment) := by
  have hboth : ∀ p : Piece, p.isLiteral = true →
      ∃ b b', p.segment = .literal b ∧ (g p).segment = .literal b' := by
    intro p hp
    obtain ⟨b, hb⟩ := exists_segment_eq_literal hp
    obtain ⟨b', hb'⟩ := exists_segment_eq_literal (hliteral p hp)
    exact ⟨b, b', hb, hb'⟩
  have hapart : ∀ p q : Piece, (g p).segment.apart (g q).segment = p.segment.apart q.segment := by
    intro p q
    rcases p.isLiteral_or_plain with hp | ⟨c, rfl⟩
    · obtain ⟨b, b', hb, hb'⟩ := hboth p hp
      rcases q.isLiteral_or_plain with hq | ⟨d, rfl⟩
      · obtain ⟨e, e', he, he'⟩ := hboth q hq
        rw [hb, hb', he, he']
        rfl
      · rw [hb, hb', hplain]
        rfl
    · rcases q.isLiteral_or_plain with hq | ⟨d, rfl⟩
      · obtain ⟨e, e', he, he'⟩ := hboth q hq
        rw [he, he', hplain]
        rfl
      · rw [hplain, hplain]
  simp only [Delimited, List.isChain_map, hapart] at h ⊢
  exact h

end Piece

/-- Pieces that stand apart, with no apostrophe outside of quotes, are read one by one. -/
theorem readText_flatMap {ps : List Piece} (hd : Delimited (ps.map Piece.segment))
    (hq : ∀ p ∈ ps, p.isQuoteFree = true) :
    readText (ps.flatMap Piece.written) = some (ps.flatMap Piece.tokens) := by
  induction ps with
  | nil => rfl
  | cons p ps ih =>
    obtain ⟨hp, hps⟩ := List.forall_mem_cons.mp hq
    have ih := ih hd.tail hps
    rw [List.flatMap_cons, List.flatMap_cons]
    cases p with
    | plain c =>
      have hc : c ≠ '\x27' := by simpa [Piece.isQuoteFree] using hp
      simp only [Piece.written, Piece.tokens, List.singleton_append]
      rw [readText_cons hc, ih]
      rfl
    | other content =>
      have hc : '\x27' ∉ content := by simpa [Piece.isQuoteFree, hasQuote] using hp
      simp only [Piece.written, Piece.tokens]
      rw [readText_append hc, ih]
      rfl
    | quoted literal =>
      -- What follows the literal is a delimiter, which does not double its last apostrophe.
      have hhead : (ps.flatMap Piece.written).head? ≠ some '\x27' := by
        cases ps with
        | nil => simp
        | cons p' ps =>
          have hapart : (Piece.quoted literal).segment.apart p'.segment = true := hd.head
          cases p' with
          | plain d =>
            intro he
            have hd : d = '\x27' := by simpa [Piece.written] using he
            have hdelimiter : isDelimiter d = true := hapart
            rw [hd] at hdelimiter
            exact absurd hdelimiter (by decide)
          | quoted literal' => cases hapart
          | other content => cases hapart
      simp only [Piece.written, Piece.tokens, quotedForm, List.cons_append, List.append_assoc,
        List.nil_append]
      rw [readText, readLiteral_double _ hhead, ih]
      simp

end Sql

open Compile Sql

/-- A text with its literals written in reads as its pieces, and the text with empty quotes as the
same with empty literals. -/
theorem Layout.tokens?_unmark {s t : String} {ps : List Piece} (h : Layout true s t ps) :
    tokens? (unmark s) = some (ps.flatMap Piece.tokens) ∧
      tokens? (unmark t) = some ((ps.flatMap Piece.tokens).map Token.emptied) := by
  have hq := h.isQuoteFree rfl
  constructor
  · rw [h.marked.unmark_eq, tokens?, String.toList_ofList, List.flatMap_assoc]
    simp only [Piece.flatMap_written_segments]
    exact readText_flatMap h.delimited hq
  · have hq' : ∀ p ∈ ps.map Piece.emptied, p.isQuoteFree = true := by
      intro p hp
      obtain ⟨p', hp', rfl⟩ := List.mem_map.mp hp
      rw [Piece.isQuoteFree_emptied]
      exact hq p' hp'
    have hdelimited : Delimited ((ps.map Piece.emptied).map Piece.segment) :=
      Piece.delimited_map (fun _ => rfl) (fun p hp => by cases p <;> first | rfl | cases hp)
        h.delimited
    have hread := readText_flatMap hdelimited hq'
    simp only [List.flatMap_map, Piece.tokens_emptied] at hread
    rw [h.emptied.unmark_eq, tokens?, String.toList_ofList, List.flatMap_assoc, List.map_flatMap]
    simp only [Piece.flatMap_written_segments]
    exact hread

theorem filterMap_content?_flatMap (ps : List Piece) :
    (ps.flatMap Piece.tokens).filterMap Token.content? =
      (ps.filterMap Piece.quoted?).map QuotedLiteral.text := by
  rw [List.filterMap_flatMap, List.map_filterMap, List.filterMap_eq_flatMap_toList]
  simp only [Piece.filterMap_content?_tokens]

/-- The text of a query reads as its quoted literals and what is around them, which the text of the
query with empty quotes has around empty literals. -/
theorem build_tokens {options : Options} (hguard : options.withSanitizedInjection = false)
    {q : Query} (hq : q.Unreserved) (hfree : q.QuoteFree) :
    SameOutcome (fun sql emptied => ∃ tokens, tokens? sql = some tokens ∧
        tokens? emptied = some (tokens.map Token.emptied) ∧
        tokens.filterMap Token.content? = q.quotedLiterals.map QuotedLiteral.text)
      (options.build q).result (options.build q.emptyQuotes).result := by
  have hrejects : ∀ s, options.rejects s = false := fun s => by simp [Options.rejects, hguard]
  simp only [options.result_build, hrejects]
  refine (markup_laidOut (q.orderly_of_quoteFree hq hfree) _).bind fun s t hlaid => .ok ?_
  obtain ⟨ps, hps, hquoted⟩ := hlaid
  obtain ⟨hs, ht⟩ := hps.tokens?_unmark
  exact ⟨ps.flatMap Piece.tokens, hs, ht, by rw [filterMap_content?_flatMap, hquoted]⟩

/-- If no text outside of quotes has an apostrophe, then the statement of a query does not end
within a literal, its literals are the quoted literals of the query, in order and at every depth,
and other strings in their place change nothing outside of them. -/
theorem build_confines_quotedLiterals {options : Options}
    (hguard : options.withSanitizedInjection = false) {q : Query} (hq : q.Unreserved)
    (hfree : q.QuoteFree) {sql : String} (hsql : (options.build q).result = .ok sql) :
    ∃ tokens, tokens? sql = some tokens ∧
      tokens.filterMap Token.content? = q.quotedLiterals.map QuotedLiteral.text ∧
      ∀ q' : Query, q'.Unreserved → q'.emptyQuotes = q.emptyQuotes →
        ∃ sql' tokens', (options.build q').result = .ok sql' ∧ tokens? sql' = some tokens' ∧
          tokens'.map Token.emptied = tokens.map Token.emptied := by
  have hread := build_tokens hguard hq hfree
  rw [hsql] at hread
  obtain ⟨emptied, hemptied, tokens, htokens, hempty, hcontents⟩ := hread.of_ok
  refine ⟨tokens, htokens, hcontents, fun q' hq' hsame => ?_⟩
  have hread' := build_tokens hguard hq' (hfree.of_emptyQuotes_eq hsame)
  rw [hsame, hemptied] at hread'
  obtain ⟨sql', hsql', tokens', htokens', hempty', -⟩ := hread'.of_ok_right
  exact ⟨sql', tokens', hsql', htokens', Option.some.inj (hempty'.symm.trans hempty)⟩

theorem build_confines_quotedLiterals_annotatedNotes :
    ∃ sql tokens sql' tokens',
      (Options.build {} (annotatedNotes "a" "n" "it's  me")).result = .ok sql ∧
      sql = "SELECT (SELECT * FROM a WHERE x = 'it''s  me') AS n FROM t WHERE w IN ('p  q', '1')" ∧
      tokens? sql = some tokens ∧
      tokens.filterMap Token.content? = ["it's  me", "p  q", "1"] ∧
      (Options.build {} (annotatedNotes "a" "n" "' OR ''=''")).result = .ok sql' ∧
      tokens? sql' = some tokens' ∧ tokens'.map Token.emptied = tokens.map Token.emptied := by
  have hsql : (Options.build {} (annotatedNotes "a" "n" "it's  me")).result =
      .ok "SELECT (SELECT * FROM a WHERE x = 'it''s  me') AS n FROM t WHERE w IN ('p  q', '1')" :=
    eq_ok_of_toOption (by decide +kernel)
  obtain ⟨tokens, htokens, hcontents, hothers⟩ :=
    build_confines_quotedLiterals rfl (by decide +kernel) (by decide +kernel) hsql
  obtain ⟨sql', tokens', hsql', htokens', houtside⟩ :=
    hothers (annotatedNotes "a" "n" "' OR ''=''") (by decide +kernel) rfl
  exact ⟨_, tokens, sql', tokens', hsql, rfl, htokens, hcontents, hsql', htokens', houtside⟩

end QuerySql
