import QuerySql.Proofs.BoundValues
import QuerySql.Proofs.Denylist
import QuerySql.Proofs.Statements

/-!
# What passes the guard

The guard looks at a statement with its literals written in. What is delivered may be another text,
with placeholders, and values without their quotes. Neither has a forbidden piece that the guard
does not see: a placeholder stands in no forbidden piece, its neighbours are no part of a word, and
a value has the characters of its literal on either side, or the end of a word.

* `Forbidden.congr`: of the neighbours, only whether they belong to a word counts.
* `StatementText.clean_sql`: the text with placeholders is clean if the guard finds nothing.
* `StatementText.clean_string`: so is every string that is bound.
* `guarded_outcomes_clean`: all that is delivered with the guard on is clean.
-/

namespace QuerySql

open Compile Sql

namespace Sql.Forbidden

variable {before after : Option Char} {piece : List Char}

/-- Of the neighbours, only whether they belong to a word counts. -/
theorem congr {before' after' : Option Char}
    (hb : before'.any Text.isWordChar = before.any Text.isWordChar)
    (ha : after'.any Text.isWordChar = after.any Text.isWordChar)
    (h : Forbidden before after piece) : Forbidden before' after' piece := by
  have hbefore : ∀ o, Text.atWordBoundary before' o = Text.atWordBoundary before o := by
    intro o
    rw [Text.atWordBoundary, Text.atWordBoundary, hb]
  have hafter : ∀ o, Text.atWordBoundary o after' = Text.atWordBoundary o after := by
    intro o
    rw [Text.atWordBoundary, Text.atWordBoundary, ha]
  cases h with
  | sign h => exact .sign h
  | version h => exact .version h
  | numbered hc hd => exact .numbered hc hd
  | escape hc => exact .escape hc
  | pair hw hne hblanks hfirst hlast =>
    exact .pair hw hne hblanks (by rwa [hbefore]) (by rwa [hafter])
  | call hw hblanks hfirst => exact .call hw hblanks (by rwa [hbefore])

/-- No word of a forbidden piece has this character in it. -/
def isForeign (z : Char) : Bool :=
  (["@@version".toList] ++ deniedPairs.map Prod.fst ++ deniedPairs.map Prod.snd ++ deniedCalls).all
    fun w => !w.contains (foldCase z)

theorem notMem_of_isForeign {z : Char} (hz : isForeign z = true) {cs : List Char}
    (h : cs.map foldCase = "@@version".toList ∨ cs.map foldCase ∈ deniedPairs.map Prod.fst ∨
      cs.map foldCase ∈ deniedPairs.map Prod.snd ∨ cs.map foldCase ∈ deniedCalls) : z ∉ cs := by
  intro hm
  have hfold := List.mem_map_of_mem (f := foldCase) hm
  simp only [isForeign, List.all_eq_true, List.mem_append, List.mem_singleton] at hz
  have hnot := hz (cs.map foldCase) (by tauto)
  simp [hfold] at hnot

/-- A question mark or apostrophe stands in no forbidden piece but one that escapes it. -/
theorem eq_escape_of_mem {z : Char} (hz : z ∈ ['?', '\x27']) (h : Forbidden before after piece)
    (hm : z ∈ piece) : piece = ['\\', '\x27'] ∧ z = '\x27' := by
  have hothers : ∀ z ∈ ['?', '\x27'], isForeign z = true ∧ Text.isBlank z = false ∧
      isHexDigit z = false ∧ z ≠ '\\' ∧ z ≠ '(' ∧ foldCase z ≠ 'x' ∧ foldCase z ≠ 'u' := by decide
  obtain ⟨hforeign, hblank, hhex, hslash, hparen, hx, hu⟩ := hothers z hz
  have hblanks : ∀ {blanks : List Char}, (∀ c ∈ blanks, Text.isBlank c = true) → z ∉ blanks := by
    intro blanks hb hmem
    rw [hb z hmem] at hblank
    cases hblank
  cases h with
  | sign h =>
    have hsign : ∀ z ∈ ['?', '\x27'], ∀ cs ∈ [[';'], ['-', '-'], ['/', '*'], ['*', '/'], ['\x00']],
        z ∉ cs := by decide
    exact absurd hm (hsign z hz piece h)
  | version h => exact absurd hm (notMem_of_isForeign hforeign (.inl h))
  | numbered hc hd =>
    simp only [List.mem_cons] at hm
    rcases hm with hm | rfl | hm
    · exact absurd hm hslash
    · rcases hc with ⟨hc, -⟩ | ⟨hc, -⟩
      · exact absurd hc hx
      · exact absurd hc hu
    · rw [hd z hm] at hhex
      cases hhex
  | @escape c hc =>
    simp only [List.mem_cons, List.not_mem_nil, or_false] at hm
    rcases hm with hm | rfl
    · exact absurd hm hslash
    · simp only [List.mem_cons, List.not_mem_nil, or_false] at hz
      rcases hz with rfl | rfl
      · exact absurd hc (by decide)
      · exact ⟨rfl, rfl⟩
  | pair hw _ hb =>
    have hfirst := notMem_of_isForeign hforeign (.inr (.inl (List.mem_map_of_mem hw)))
    have hsecond := notMem_of_isForeign hforeign (.inr (.inr (.inl (List.mem_map_of_mem hw))))
    simp [hfirst, hsecond, hblanks hb] at hm
  | call hw hb =>
    have hword := notMem_of_isForeign hforeign (.inr (.inr (.inr hw)))
    simp [hword, hblanks hb, hparen] at hm

theorem isForeign_of_isDelimiter {c : Char} (h : isDelimiter c = true) : isForeign c = true := by
  have hall : ∀ c ∈ [' ', ',', '(', ')'], isForeign c = true := by decide
  exact hall c (List.contains_iff_mem.mp h)

/-- A forbidden piece does not start with a delimiter. -/
theorem head?_not_isDelimiter (h : Forbidden before after piece) {c : Char}
    (hc : c ∈ piece.head?) : isDelimiter c = false := by
  by_contra hd
  have hforeign := isForeign_of_isDelimiter ((Bool.not_eq_false _).mp hd)
  have hhead : ∀ {first rest : List Char}, first.map foldCase ≠ [] → c ∈ (first ++ rest).head? →
      c ∈ first := by
    intro first rest hne hm
    cases first with
    | nil => exact absurd rfl hne
    | cons d first =>
      cases hm
      exact List.mem_cons_self
  cases h with
  | sign h =>
    have hsign : ∀ cs ∈ [[';'], ['-', '-'], ['/', '*'], ['*', '/'], ['\x00']],
        ∀ c ∈ cs, isDelimiter c = false := by decide
    exact hd (hsign piece h c (List.mem_of_mem_head? hc))
  | version h => exact notMem_of_isForeign hforeign (.inl h) (List.mem_of_mem_head? hc)
  | numbered | escape =>
    cases hc
    exact hd (by decide)
  | pair hw =>
    have hne : ∀ p ∈ deniedPairs, p.1 ≠ [] := by decide
    rw [List.append_assoc] at hc
    exact notMem_of_isForeign hforeign (.inr (.inl (List.mem_map_of_mem hw))) (hhead (hne _ hw) hc)
  | call hw =>
    have hne : ∀ w ∈ deniedCalls, w ≠ [] := by decide
    rw [List.append_assoc] at hc
    exact notMem_of_isForeign hforeign (.inr (.inr (.inr hw))) (hhead (hne _ hw) hc)

/-- What follows a forbidden piece that ends in a delimiter does not count. -/
theorem of_isDelimiter_getLast? (h : Forbidden before after piece) {c : Char}
    (hc : c ∈ piece.getLast?) (hd : isDelimiter c = true) (after' : Option Char) :
    Forbidden before after' piece := by
  cases h with
  | sign h => exact .sign h
  | version h => exact .version h
  | numbered hx hds => exact .numbered hx hds
  | escape he => exact .escape he
  | call hw hblanks hfirst => exact .call hw hblanks hfirst
  | @pair first blanks second hw =>
    have hne : ∀ p ∈ deniedPairs, p.2 ≠ [] := by decide
    have hsecond : second ≠ [] := fun h => hne _ hw (by rw [h]; rfl)
    rw [List.getLast?_append_of_ne_nil _ hsecond] at hc
    exact absurd (List.mem_of_mem_getLast? hc) (notMem_of_isForeign (isForeign_of_isDelimiter hd)
      (.inr (.inr (.inl (List.mem_map_of_mem hw)))))

end Sql.Forbidden

/-! ## The text with placeholders -/

theorem isWordChar_of_isDelimiter {c : Char} (h : isDelimiter c = true) :
    Text.isWordChar c = false := by
  have hall : ∀ c ∈ [' ', ',', '(', ')'], Text.isWordChar c = false := by decide
  exact hall c (List.contains_iff_mem.mp h)

/-- Parts without a placeholder among their characters are plain. -/
theorem eq_map_plain {parts : List Segment} (h : '?' ∉ parts.map Segment.placeheld) :
    parts = (parts.map Segment.placeheld).map .plain := by
  induction parts with
  | nil => rfl
  | cons p parts ih =>
    simp only [List.map_cons, List.mem_cons, not_or] at h
    cases p with
    | plain c => rw [List.map_cons, List.map_cons, ← ih h.2]; rfl
    | literal b => exact absurd rfl h.1

/-- The last part before a forbidden piece is no literal. -/
theorem getLast?_written_of_forbidden {parts : List Segment} {piece : List Char}
    {before after : Option Char} (hd : Delimited (parts ++ piece.map .plain))
    (hf : Forbidden before after piece) :
    (parts.flatMap Segment.written).getLast? = (parts.map Segment.placeheld).getLast? := by
  obtain ⟨c, cs, rfl⟩ := List.exists_cons_of_ne_nil hf.ne_nil
  rcases List.eq_nil_or_concat parts with rfl | ⟨init, p, rfl⟩
  · rfl
  · cases p with
    | plain d => simp [Segment.written, Segment.placeheld]
    | literal b =>
      have hapart : isDelimiter c = true :=
        (List.isChain_append.mp hd).2.2 (.literal b) (by simp) (.plain c) rfl
      rw [hf.head?_not_isDelimiter rfl] at hapart
      cases hapart

/-- A literal after a forbidden piece may stand as a placeholder. -/
theorem forbidden_head?_written {parts : List Segment} {piece : List Char} {before : Option Char}
    (hd : Delimited (piece.map .plain ++ parts))
    (hf : Forbidden before (parts.map Segment.placeheld).head? piece) :
    Forbidden before (parts.flatMap Segment.written).head? piece := by
  match parts with
  | [] => exact hf
  | .plain c :: rest => exact hf
  | .literal b :: rest =>
    obtain ⟨init, c, rfl⟩ := (List.eq_nil_or_concat piece).resolve_left hf.ne_nil
    refine hf.of_isDelimiter_getLast? (c := c) (by simp) ?_ _
    exact (List.isChain_append.mp hd).2.2 (.plain c) (by simp) (.literal b) rfl

/-- The text with placeholders is clean if the text with its literals is. -/
theorem Sql.Delimited.clean_placeheld {parts : List Segment} (hd : Delimited parts)
    (h : Clean (String.ofList (parts.flatMap Segment.written))) :
    Clean (String.ofList (parts.map Segment.placeheld)) := by
  intro pre piece post hsplit hf
  rw [String.toList_ofList] at hsplit
  obtain ⟨P, P₃, rfl, hP, rfl⟩ := List.map_eq_append_iff.mp hsplit
  obtain ⟨P₁, P₂, rfl, rfl, hpiece⟩ := List.map_eq_append_iff.mp hP
  have hplain : P₂ = piece.map .plain := by
    rw [← hpiece]
    refine eq_map_plain fun hm => ?_
    rw [hpiece] at hm
    exact absurd (hf.eq_escape_of_mem (by decide) hm).2 (by decide)
  subst hplain
  refine h (P₁.flatMap Segment.written) piece (P₃.flatMap Segment.written) ?_ ?_
  · rw [String.toList_ofList, List.flatMap_append, List.flatMap_append, flatMap_written_plain]
  · rw [getLast?_written_of_forbidden (List.IsChain.left_of_append hd) hf]
    rw [List.append_assoc] at hd
    exact forbidden_head?_written hd.right_of_append hf

/-! ## Bound strings -/

/-- The neighbours of a literal belong to no word. -/
theorem Sql.Delimited.neighbours {P₁ P₃ : List Segment} {b : List Char}
    (hd : Delimited (P₁ ++ .literal b :: P₃)) :
    (P₁.flatMap Segment.written).getLast?.any Text.isWordChar = false ∧
      (P₃.flatMap Segment.written).head?.any Text.isWordChar = false := by
  constructor
  · rcases List.eq_nil_or_concat P₁ with rfl | ⟨init, p, rfl⟩
    · rfl
    · have hapart := (List.isChain_append.mp hd).2.2 p (by simp) (.literal b) rfl
      cases p with
      | plain c => simpa [Segment.written] using isWordChar_of_isDelimiter hapart
      | literal b' => cases hapart
  · cases P₃ with
    | nil => rfl
    | cons p rest =>
      have hapart := hd.right_of_append.head
      cases p with
      | plain c => exact isWordChar_of_isDelimiter hapart
      | literal b' => cases hapart

theorem any_or_of_any {o p : Option Char} {f : Char → Bool} (hp : p.any f = false) :
    (o.or p).any f = o.any f := by
  cases o with
  | none => exact hp
  | some c => rfl

/-- A clean text is clean at the neighbours that a piece of it has. -/
theorem Sql.Clean.not_forbidden {s : String} (h : Clean s) {left pre piece post right : List Char}
    (hs : s.toList = left ++ (pre ++ piece ++ post) ++ right)
    (hleft : left.getLast?.any Text.isWordChar = false)
    (hright : right.head?.any Text.isWordChar = false) :
    ¬ Forbidden pre.getLast? post.head? piece := by
  intro hf
  refine h (left ++ pre) piece (post ++ right) (by simp [hs]) (hf.congr ?_ ?_)
  · rw [List.getLast?_append, any_or_of_any hleft]
  · rw [List.head?_append, any_or_of_any hright]

/-- An escaped apostrophe is still there with its apostrophes doubled. -/
theorem exists_eq_escape_append {cs : List Char}
    (h : Text.undouble '\x27' cs = ['\\', '\x27']) : ∃ rest, cs = ['\\', '\x27'] ++ rest := by
  have hhead := Text.head?_undouble '\x27' cs
  rw [h] at hhead
  match cs with
  | [c] => cases h
  | c :: c' :: rest =>
    obtain rfl : c = '\\' := (Option.some.inj hhead).symm
    have htail : Text.undouble '\x27' (c' :: rest) = ['\x27'] := by
      rw [Text.undouble, if_neg (by simp)] at h
      exact (List.cons.inj h).2
    have hhead' := Text.head?_undouble '\x27' (c' :: rest)
    rw [htail] at hhead'
    obtain rfl : c' = '\x27' := (Option.some.inj hhead').symm
    exact ⟨rest, rfl⟩

/-- A string that is bound is clean if the text with the literals is. -/
theorem Sql.Delimited.clean_string {parts : List Segment} (hd : Delimited parts)
    (h : Clean (String.ofList (parts.flatMap Segment.written))) {b : List Char}
    (hb : .literal b ∈ parts) {v : String}
    (hv : .ofLexical (String.ofList b) = BindValue.string v) :
    Clean v := by
  obtain ⟨P₁, P₃, rfl⟩ := List.append_of_mem hb
  obtain ⟨hleft, hright⟩ := hd.neighbours
  have htext : (String.ofList ((P₁ ++ .literal b :: P₃).flatMap Segment.written)).toList =
      P₁.flatMap Segment.written ++ b ++ P₃.flatMap Segment.written := by
    simp [Segment.written]
  intro pre piece post hsplit hf
  rcases BindValue.ofLexical_eq_string hv with rfl | ⟨body, hbody, hvalue⟩
  · rw [String.toList_ofList] at hsplit
    exact h.not_forbidden (htext.trans (by rw [hsplit])) hleft hright hf
  · rw [String.toList_ofList] at hbody
    obtain ⟨xy, z, rfl, hxy, rfl⟩ := Text.undouble_eq_append (hvalue.symm.trans hsplit)
    obtain ⟨x, y, rfl, rfl, hy⟩ := Text.undouble_eq_append hxy
    by_cases hq : '\x27' ∈ piece
    · obtain ⟨rfl, -⟩ := hf.eq_escape_of_mem (by decide) hq
      obtain ⟨rest, rfl⟩ := exists_eq_escape_append hy
      refine h (P₁.flatMap Segment.written ++ '\x27' :: x) ['\\', '\x27']
        (rest ++ z ++ '\x27' :: P₃.flatMap Segment.written) ?_ (.escape (by decide))
      rw [htext, hbody]
      simp
    · rw [← hy] at hq
      rw [Text.undouble_eq_self hq] at hy
      subst hy
      rw [Text.getLast?_undouble, Text.head?_undouble] at hf
      have hquote : Text.isWordChar '\x27' = false := by decide
      have hquoted : P₁.flatMap Segment.written ++ b ++ P₃.flatMap Segment.written =
          (P₁.flatMap Segment.written ++ ['\x27']) ++ (x ++ y ++ z) ++
            '\x27' :: P₃.flatMap Segment.written := by
        rw [hbody]
        simp
      exact h.not_forbidden (htext.trans hquoted) (by simp [hquote]) (by simp [hquote]) hf

/-! ## Guarded calls -/

/-- What is delivered with the guard on is clean and the same as without it, and nothing clean is
held back. -/
structure Screened (build : Except Error String) (generate : Except Error Statement)
    (build' : Except Error String) (generate' : Except Error Statement) : Prop where
  build_clean {sql : String} : build = .ok sql → sql ≠ rejectionText → Clean sql ∧ build' = .ok sql
  generate_clean {statement : Statement} : generate = .ok statement →
    generate' = .ok statement ∧ Clean statement.sql ∧
      ∀ s, .string s ∈ statement.params → Clean s
  delivered {sql : String} : build' = .ok sql → Clean sql →
    build = .ok sql ∧ generate = generate'

/-- The options with the guard off. -/
def Options.unguarded (options : Options) : Options :=
  { options with withSanitizedInjection := false }

theorem Options.rejects_unguarded (options : Options) (s : String) :
    options.unguarded.rejects s = false := rfl

theorem Options.rejects_eq_false_iff {options : Options}
    (h : options.withSanitizedInjection = true) {s : String} :
    options.rejects s = false ↔ Clean (unmark s) := by
  rw [← denied?_eq_none_iff, Options.rejects, h]
  simp

theorem StatementText.screened {s : String} {parts : List Segment} (hs : StatementText s parts)
    {options : Options} (h : options.withSanitizedInjection = true) :
    Screened (.ok (if options.rejects s then rejectionText else unmark s))
      (if options.rejects s then .error .injectionRejected else .ok (Statement.ofMarked s))
      (.ok (unmark s)) (.ok (Statement.ofMarked s)) := by
  cases hr : options.rejects s with
  | true =>
    have hnot : ¬ Clean (unmark s) := fun hc => by
      rw [(options.rejects_eq_false_iff h).mpr hc] at hr
      cases hr
    refine ⟨fun hb hne => ?_, fun hg => ?_, fun hb hc => ?_⟩
    · cases hb
      exact absurd rfl hne
    · cases hg
    · cases hb
      exact absurd hc hnot
  | false =>
    have hclean := (options.rejects_eq_false_iff h).mp hr
    refine ⟨fun hb _ => ?_, fun hg => ?_, fun hb _ => ⟨hb, rfl⟩⟩
    · cases hb
      exact ⟨hclean, rfl⟩
    · cases hg
      rw [hs.marked.unmark_eq] at hclean
      rw [hs.marked.ofMarked_eq]
      refine ⟨rfl, hs.delimited.clean_placeheld hclean, fun v hv => ?_⟩
      obtain ⟨p, hp, hpv⟩ := List.mem_filterMap.mp hv
      cases p with
      | plain c => cases hpv
      | literal b => exact hs.delimited.clean_string hclean hp (Option.some.inj hpv)

theorem screened_error (e : Error) : Screened (.error e) (.error e) (.error e) (.error e) := by
  refine ⟨fun hb => ?_, fun hg => ?_, fun hb => ?_⟩
  · cases hb
  · cases hg
  · cases hb

theorem Compiled.screened {x : Except Error String} (hx : Compiled x) {options : Options}
    (h : options.withSanitizedInjection = true) :
    Screened (x.bind fun s => .ok (if options.rejects s then rejectionText else unmark s))
      (x.bind fun s => if options.rejects s then .error .injectionRejected
        else .ok (Statement.ofMarked s))
      (x.bind fun s => .ok (unmark s)) (x.bind fun s => .ok (Statement.ofMarked s)) := by
  cases hx with
  | depth limit => exact screened_error _
  | text hs => exact hs.screened h

/-- With the guard on, all that is delivered is clean: the text with its literals, the text with
placeholders, and each string that is bound. -/
theorem guarded_outcomes_clean {options : Options} (h : options.withSanitizedInjection = true) :
    (∀ q : Query, q.Unreserved →
      Screened (options.build q).result (options.generate q).result
        (options.unguarded.build q).result (options.unguarded.generate q).result) ∧
    ∀ members : List Query, (∀ q ∈ members, q.Unreserved) →
      Screened (options.buildUnion members).result (options.generateUnion members).result
        (options.unguarded.buildUnion members).result
        (options.unguarded.generateUnion members).result := by
  constructor
  · intro q hq
    simp only [Options.result_build, Options.result_generate, Options.rejects_unguarded]
    exact (compiled_markup hq).screened h
  · intro members hq
    simp only [Options.result_buildUnion, Options.result_generateUnion, Options.rejects_unguarded]
    by_cases hne : members = []
    · subst hne
      exact screened_error .emptyUnion
    · exact (compiled_unionMarkup hne hq).screened h

theorem guarded_outcomes_clean_rowsOfOwner :
    ∃ (st : Statement) (sql : String),
      (Options.generate { withSanitizedInjection := true }
        (rowsOfOwner (.str "drop tables") 5)).result = .ok st ∧
      (Options.buildUnion { withSanitizedInjection := true }
        [rowsOfOwner (.str "drop tables") 5]).result = .ok sql ∧
      .string "drop tables" ∈ st.params ∧ Clean "drop tables" ∧ Clean st.sql ∧ Clean sql := by
  have hst : (Options.generate { withSanitizedInjection := true }
      (rowsOfOwner (.str "drop tables") 5)).result =
      .ok ⟨"SELECT * FROM o'clock WHERE owner = ? LIMIT ?", [.string "drop tables", .integer 5]⟩ :=
    eq_ok_of_toOption (by decide +kernel)
  have hsql : (Options.buildUnion { withSanitizedInjection := true }
      [rowsOfOwner (.str "drop tables") 5]).result =
      .ok "SELECT * FROM o'clock WHERE owner = 'drop tables' LIMIT 5" :=
    eq_ok_of_toOption (by decide +kernel)
  have hguard := @guarded_outcomes_clean { withSanitizedInjection := true } rfl
  obtain ⟨-, hclean, hparams⟩ := (hguard.1 _ (by decide +kernel)).generate_clean hst
  obtain ⟨hclean', -⟩ := (hguard.2 _ (by decide +kernel)).build_clean hsql (by decide)
  exact ⟨_, _, hst, hsql, List.mem_cons_self, hparams _ List.mem_cons_self, hclean, hclean'⟩

end QuerySql
