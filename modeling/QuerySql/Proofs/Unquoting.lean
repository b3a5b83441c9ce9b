import QuerySql.Proofs.Confinement
import QuerySql.Proofs.RoundTrips

/-!
# What unquoting takes off

A string that is bound is read from the text of its literal. If the text starts with an apostrophe
and ends with another, both are taken off, and every pair of apostrophes between them is written
once. The quoted form of a string is such a text and gives the string back. An expression that
starts and ends with a literal is such a text as well, and is bound without the apostrophes at its
ends, which is neither the expression nor what any literal stands for.

* `Sql.tokens?_eq_literal_iff`: only its quoted form reads as a single literal.
* `bound_strings_of_texts`: which strings are bound for which texts.
* `joined_literals_lose_apostrophes`: an expression that is not bound as it is.
-/

namespace QuerySql

/-! ## Texts that read as a single literal -/

namespace Sql

theorem readText_eq_some_nil_iff {cs : List Char} : readText cs = some [] ↔ cs = [] := by
  constructor
  · intro h
    cases cs with
    | nil => rfl
    | cons c cs =>
      by_cases hc : c = '\x27'
      · subst hc
        rw [readText] at h
        obtain ⟨p, -, hp⟩ := Option.map_eq_some_iff.mp h
        cases hp
      · rw [readText_cons hc] at h
        obtain ⟨ts, -, hts⟩ := Option.map_eq_some_iff.mp h
        cases hts
  · rintro rfl
    rfl

/-- What is read from within a literal is its content with every apostrophe doubled, and then the
apostrophe that ends it. -/
theorem exists_of_readLiteral {cs content : List Char} {ts : List Token}
    (h : readLiteral cs = some (content, ts)) :
    ∃ rest, cs = Text.double '\x27' content ++ '\x27' :: rest ∧ readText rest = some ts := by
  match cs with
  | [] => cases h
  | c :: d :: cs =>
    by_cases hc : c = '\x27'
    · subst hc
      by_cases hd : d = '\x27'
      · -- A doubled apostrophe is one of the content.
        subst hd
        rw [readLiteral] at h
        obtain ⟨⟨inner, ts'⟩, hinner, heq⟩ := Option.map_eq_some_iff.mp h
        cases heq
        obtain ⟨rest, hcs, hrest⟩ := exists_of_readLiteral hinner
        refine ⟨rest, ?_, hrest⟩
        rw [hcs, Text.double_cons]
        rfl
      · rw [readLiteral] at h
        · obtain ⟨ts', hts, heq⟩ := Option.map_eq_some_iff.mp h
          cases heq
          exact ⟨d :: cs, rfl, hts⟩
        · rintro ds hds
          exact hd (List.cons.inj hds).1
    · rw [readLiteral_cons hc] at h
      obtain ⟨⟨inner, ts'⟩, hinner, heq⟩ := Option.map_eq_some_iff.mp h
      cases heq
      obtain ⟨rest, hcs, hrest⟩ := exists_of_readLiteral hinner
      refine ⟨rest, ?_, hrest⟩
      rw [hcs, Text.double_cons, if_neg hc]
      rfl
  | [c] =>
    by_cases hc : c = '\x27'
    · subst hc
      cases h
      exact ⟨[], rfl, rfl⟩
    · rw [readLiteral_cons hc] at h
      cases h
termination_by cs.length

/-- A text reads as a single literal exactly if it is the quoted form of the content. -/
theorem tokens?_eq_literal_iff {l s : String} :
    tokens? l = some [.literal s] ↔ l = quoteLiteral s := by
  constructor
  · intro h
    rw [tokens?] at h
    cases hl : l.toList with
    | nil =>
      rw [hl] at h
      cases h
    | cons c cs =>
      rw [hl] at h
      by_cases hc : c = '\x27'
      · subst hc
        rw [readText] at h
        obtain ⟨⟨content, ts⟩, hread, heq⟩ := Option.map_eq_some_iff.mp h
        cases heq
        obtain ⟨rest, hcs, hrest⟩ := exists_of_readLiteral hread
        rw [readText_eq_some_nil_iff] at hrest
        subst hrest
        rw [← String.ofList_toList (s := l), hl, hcs, quoteLiteral, String.toList_ofList]
        rfl
      · rw [readText_cons hc] at h
        obtain ⟨ts, -, hts⟩ := Option.map_eq_some_iff.mp h
        cases hts
  · rintro rfl
    have hread := readLiteral_double s.toList (show ([] : List Char).head? ≠ some '\x27' by simp)
    rw [tokens?, quoteLiteral, String.toList_ofList, List.cons_append, readText, hread]
    simp [readText]

end Sql

/-! ## Texts between apostrophes -/

open Sql Compile

/-- The text starts with an apostrophe and ends with another. -/
def Enclosed (l : String) : Prop := ∃ body, l.toList = '\x27' :: (body ++ ['\x27'])

theorem enclosed_iff {l : String} : Enclosed l ↔ (BindValue.unquote? l.toList).isSome = true := by
  simp only [Option.isSome_iff_exists, BindValue.unquote?_eq_some_iff]
  constructor
  · rintro ⟨body, hl⟩
    exact ⟨_, body, hl, rfl⟩
  · rintro ⟨content, body, hl, -⟩
    exact ⟨body, hl⟩

instance (l : String) : Decidable (Enclosed l) := decidable_of_iff' _ enclosed_iff

namespace Text

theorem length_undouble_le (d : Char) (cs : List Char) : (undouble d cs).length ≤ cs.length := by
  fun_induction undouble d cs with
  | case1 => exact le_rfl
  | case2 x => exact le_rfl
  | case3 x y cs _ ih =>
    simp only [List.length_cons]
    omega
  | case4 x y cs _ ih =>
    simp only [List.length_cons] at ih ⊢
    omega

end Text

namespace BindValue

/-- The string that is bound for a text between apostrophes. -/
theorem ofLexical_enclosed {l : String} {body : List Char}
    (hl : l.toList = '\x27' :: (body ++ ['\x27'])) :
    ofLexical l = .string (String.ofList (Text.undouble '\x27' body)) := by
  have hunquote : unquote? l.toList = some (Text.undouble '\x27' body) :=
    unquote?_eq_some_iff.mpr ⟨body, hl, rfl⟩
  unfold ofLexical
  simp only [hunquote]

/-- The string is the text itself exactly if the text is not set between apostrophes: it is shorter
by two characters at least if it is. -/
theorem string_eq_iff {l s : String} (h : ofLexical l = .string s) : s = l ↔ ¬ Enclosed l := by
  constructor
  · rintro rfl ⟨body, hl⟩
    rw [ofLexical_enclosed hl] at h
    have hs : String.ofList (Text.undouble '\x27' body) = s := BindValue.string.inj h
    have hlength := congrArg (fun t : String => t.toList.length) hs
    have hle := Text.length_undouble_le '\x27' body
    simp only [hl, String.toList_ofList, List.length_cons, List.length_append,
      List.length_nil] at hlength
    omega
  · intro hnot
    rcases ofLexical_eq_string h with rfl | ⟨body, hl, -⟩
    · rfl
    · exact absurd ⟨body, hl⟩ hnot

/-- The text is the quoted form of the string exactly if it reads as a single literal. -/
theorem eq_quoteLiteral_iff {l s : String} (h : ofLexical l = .string s) :
    l = quoteLiteral s ↔ ∃ content, tokens? l = some [.literal content] := by
  constructor
  · intro hl
    exact ⟨s, tokens?_eq_literal_iff.mpr hl⟩
  · rintro ⟨content, htokens⟩
    have hl := tokens?_eq_literal_iff.mp htokens
    rw [hl, ofLexical_quoteLiteral] at h
    cases h
    exact hl

end BindValue

/-! ## Bound strings -/

/-- A string that is bound for a text is the text itself exactly if the text is not set between
apostrophes, and has the text as its quoted form exactly if the text reads as a single literal.
That leaves the texts that start and end with an apostrophe and are more than one literal, or none
that ends: their strings are what stands between the two, pairs of apostrophes written once. So a
raw text that is taken out alone and read as a string is bound as it is unless it starts and ends
with an apostrophe. -/
theorem bound_strings_of_texts {l s : String} (h : BindValue.ofLexical l = .string s) :
    (s = l ↔ ¬ Enclosed l) ∧
    (l = quoteLiteral s ↔ ∃ content, tokens? l = some [.literal content]) ∧
    (∀ body, l.toList = '\x27' :: (body ++ ['\x27']) →
      s.toList = Text.undouble '\x27' body) ∧
    (hasReserved l = false → ¬ Enclosed l →
      boundAlone .raw (.str l) = ⟨"?", [.string l]⟩) := by
  refine ⟨BindValue.string_eq_iff h, BindValue.eq_quoteLiteral_iff h, ?_, ?_⟩
  · intro body hl
    rw [BindValue.ofLexical_enclosed hl] at h
    rw [← BindValue.string.inj h, String.toList_ofList]
  · intro hreserved hnot
    have hself := (BindValue.string_eq_iff h).mpr hnot
    subst hself
    rw [← h]
    exact ofMarked_mark hreserved

/-- A raw text that only ends with a literal, one that is a literal, and one with a literal at
either end. -/
theorem bound_strings_of_texts_names :
    (BindValue.ofLexical "name || 'x'" = .string "name || 'x'" ∧ ¬ Enclosed "name || 'x'" ∧
      boundAlone .raw (.str "name || 'x'") = ⟨"?", [.string "name || 'x'"]⟩) ∧
    (BindValue.ofLexical "'it''s'" = .string "it's" ∧ "'it''s'" = quoteLiteral "it's" ∧
      ∃ content, tokens? "'it''s'" = some [.literal content]) ∧
    (BindValue.ofLexical "'a''' || 'b'" = .string "a'' || 'b" ∧ Enclosed "'a''' || 'b'" ∧
      ¬ ∃ content, tokens? "'a''' || 'b'" = some [.literal content]) := by
  have hname : BindValue.ofLexical "name || 'x'" = .string "name || 'x'" := by decide +kernel
  have hliteral : BindValue.ofLexical "'it''s'" = .string "it's" := by decide +kernel
  have hjoined : BindValue.ofLexical "'a''' || 'b'" = .string "a'' || 'b" := by decide +kernel
  obtain ⟨hitself, -, -, hraw⟩ := bound_strings_of_texts hname
  obtain ⟨-, hquoted, -⟩ := bound_strings_of_texts hliteral
  obtain ⟨-, hsingle, -⟩ := bound_strings_of_texts hjoined
  refine ⟨⟨hname, hitself.mp rfl, hraw (by decide +kernel) (hitself.mp rfl)⟩,
    ⟨hliteral, by decide +kernel, hquoted.mp (by decide +kernel)⟩, hjoined, by decide +kernel, ?_⟩
  exact fun hex => absurd (hsingle.mpr hex) (by decide +kernel)

/-- Two literals with an operator between them are bound without the apostrophes at their ends. -/
theorem joined_literals_lose_apostrophes :
    BindValue.ofLexical "'a' || 'b'" = .string "a' || 'b" ∧ "a' || 'b" ≠ "'a' || 'b'" ∧
      "'a' || 'b'" ≠ quoteLiteral "a' || 'b" ∧
      boundAlone .raw (.str "'a' || 'b'") = ⟨"?", [.string "a' || 'b"]⟩ :=
  ⟨by decide +kernel, by decide, by decide +kernel, by decide +kernel⟩

end QuerySql
