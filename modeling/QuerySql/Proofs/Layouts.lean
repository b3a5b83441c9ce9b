import QuerySql.Proofs.Assembly
import QuerySql.Proofs.Carried
import QuerySql.Proofs.Pieces

/-!
# Quoted literals in the text of a statement

The quoted literals of a text, static or not, and the text that has nothing between the same quotes.
Putting texts together puts their literals one after the other and leaves all of them as they are,
as long as the apostrophes of what stands between them come in pairs.

* `Layout s t ps`: the text `s` consists of the pieces `ps`, and `t` of the same with empty quotes.
* `LaidOut s t literals`: the quoted literals of `s` are `literals`.
* `assembly_laidOut`: putting texts together keeps this.
-/

namespace QuerySql

open Compile Sql

/-! ## Pieces before the first condition -/

theorem map_segment_withoutLeadingOperandPieces (ps : List Piece) :
    withoutLeadingOperandParts (ps.map Piece.segment) =
      (withoutLeadingOperandPieces ps).map Piece.segment := by
  simp only [List.map_eq_flatMap]
  exact rendering_segment.withoutLeadingOperandParts_flatMap ps

/-- What is taken off is plain: blanks and at most one operand. -/
theorem withoutLeadingOperandPieces_eq (ps : List Piece) :
    ∃ pre : List Char, ps = pre.map .plain ++ withoutLeadingOperandPieces ps ∧
      ∀ c ∈ pre, isLeading c = true := by
  obtain ⟨taken, htaken⟩ := withoutLeadingOperandPieces_suffix ps
  obtain ⟨pre, hpre, hleading⟩ := withoutLeadingOperandParts_suffix (ps.map Piece.segment)
  have hmap : taken.map Piece.segment = pre.map .plain := by
    have hboth : taken.map Piece.segment ++ (withoutLeadingOperandPieces ps).map Piece.segment =
        pre.map .plain ++ (withoutLeadingOperandPieces ps).map Piece.segment := by
      rw [← List.map_append, htaken, ← map_segment_withoutLeadingOperandPieces]
      exact hpre
    exact List.append_cancel_right hboth
  refine ⟨pre, ?_, hleading⟩
  conv => lhs; rw [← htaken]
  rw [Piece.eq_map_plain hmap]

/-- Taking it off keeps all that is observed of pieces but such characters. -/
theorem filterMap_withoutLeadingOperandPieces {β : Type} {f : Piece → Option β}
    (hf : ∀ c, isLeading c = true → f (.plain c) = none) (ps : List Piece) :
    (withoutLeadingOperandPieces ps).filterMap f = ps.filterMap f := by
  obtain ⟨pre, hpre, hleading⟩ := withoutLeadingOperandPieces_eq ps
  have hnone : (pre.map Piece.plain).filterMap f = [] := by
    rw [List.filterMap_eq_nil_iff]
    intro p hp
    obtain ⟨c, hc, rfl⟩ := List.mem_map.mp hp
    exact hf c (hleading c hc)
  conv => rhs; rw [hpre, List.filterMap_append, hnone, List.nil_append]

/-! ## Layouts -/

/-- The text can stand in SQL as it is, and has no apostrophe if there are to be none. -/
structure Standalone (quoteFree : Bool) (s : String) : Prop extends Bare s where
  notMem : quoteFree = true → '\x27' ∉ s.toList

/-- The pieces of a text, and of a text that has nothing between the same quotes. Apostrophes
outside of quoted literals come in pairs, or there are none if there are to be none. -/
structure Layout (quoteFree : Bool) (s t : String) (ps : List Piece) : Prop where
  marked : Marked s (ps.flatMap Piece.segments)
  emptied : Marked t (ps.flatMap fun p => p.emptied.segments)
  paired : Paired false (ps.map Piece.segment)
  delimited : Delimited (ps.map Piece.segment)
  isQuoteFree : quoteFree = true → ∀ p ∈ ps, p.isQuoteFree = true

/-- The quoted literals of the first text are `literals`, and the second text has nothing between
the same quotes. -/
def LaidOut (quoteFree : Bool) (s t : String) (literals : List QuotedLiteral) : Prop :=
  ∃ ps, Layout quoteFree s t ps ∧ ps.filterMap Piece.quoted? = literals

namespace Layout

variable {quoteFree : Bool} {s t : String} {ps : List Piece}

theorem plain (h : Standalone quoteFree s) : Layout quoteFree s s (s.toList.map .plain) where
  marked := by
    rw [rendering_segments.flatMap_plain]
    exact .bare h.unreserved
  emptied := by
    rw [rendering_emptied.flatMap_plain]
    exact .bare h.unreserved
  paired := by
    rw [Piece.map_segment_plain]
    exact .of_even h.even
  delimited := by
    rw [Piece.map_segment_plain]
    exact .plain _
  isQuoteFree := by
    intro hq p hp
    obtain ⟨c, hc, rfl⟩ := List.mem_map.mp hp
    have hne : c ≠ '\x27' := fun he => h.notMem hq (he ▸ hc)
    simpa [Piece.isQuoteFree] using hne

theorem joined {sep s' t' : String} {ps' : List Piece} (hsep : isSeparator sep = true)
    (hstand : Standalone quoteFree sep) (h : Layout quoteFree s t ps)
    (h' : Layout quoteFree s' t' ps') :
    Layout quoteFree (s ++ sep ++ s') (t ++ sep ++ t') (ps ++ sep.toList.map .plain ++ ps') := by
  have hmid := Layout.plain hstand
  constructor
  · simpa only [List.flatMap_append] using (h.marked.append hmid.marked).append h'.marked
  · simpa only [List.flatMap_append] using (h.emptied.append hmid.emptied).append h'.emptied
  · simpa only [List.map_append] using (h.paired.append hmid.paired).append h'.paired
  · rw [List.map_append, List.map_append, Piece.map_segment_plain]
    exact h.delimited.joined hsep h'.delimited
  · intro hq
    rw [List.forall_mem_append, List.forall_mem_append]
    exact ⟨⟨h.isQuoteFree hq, hmid.isQuoteFree hq⟩, h'.isQuoteFree hq⟩

theorem withoutLeadingOperand (h : Layout quoteFree s t ps) :
    Layout quoteFree (withoutLeadingOperand s) (withoutLeadingOperand t)
      (withoutLeadingOperandPieces ps) := by
  obtain ⟨pre, hpre, hleading⟩ := withoutLeadingOperandPieces_eq ps
  have hquote : '\x27' ∉ pre := notMem_of_isLeading hleading (by decide)
  constructor
  · rw [← rendering_segments.withoutLeadingOperandParts_flatMap]
    exact h.marked.withoutLeadingOperand
  · rw [← rendering_emptied.withoutLeadingOperandParts_flatMap]
    exact h.emptied.withoutLeadingOperand
  · have hpaired := h.paired
    rwa [hpre, List.map_append, Piece.map_segment_plain, Paired.plain_append_iff hquote] at hpaired
  · rw [← map_segment_withoutLeadingOperandPieces]
    exact h.delimited.withoutLeadingOperandParts
  · intro hq p hp
    exact h.isQuoteFree hq p ((withoutLeadingOperandPieces_suffix ps).subset hp)

theorem normalizeSpacing (h : Layout quoteFree s t ps) :
    Layout quoteFree (normalizeSpacing s) (normalizeSpacing t)
      (respacePieces (.free false false) ps) := by
  have hpaired : Paired (Mode.free false false).isQuoted (ps.map Piece.segment) := h.paired
  constructor
  · rw [← rendering_segments.respaceParts_flatMap hpaired]
    exact h.marked.normalizeSpacing
  · rw [← rendering_emptied.respaceParts_flatMap hpaired]
    exact h.emptied.normalizeSpacing
  · rw [← respaceParts_map_segment hpaired]
    exact hpaired.respaceParts.1
  · rw [← respaceParts_map_segment hpaired]
    exact h.delimited.respaceParts false
  · exact fun hq => isQuoteFree_respacePieces _ (h.isQuoteFree hq)

/-- A quoted literal, static or marked. -/
theorem quoted (isStatic : Bool) (h : hasReserved s = false) :
    Layout quoteFree (literal isStatic (quoteLiteral s)) (literal isStatic (quoteLiteral ""))
      [.quoted ⟨isStatic, s⟩] := by
  have hs := hasReserved_quoteLiteral h
  have hnil : hasReserved (quoteLiteral "") = false := by decide
  constructor
  · cases isStatic with
    | true => simpa [literal, Piece.segments, quoteLiteral, quotedForm] using Marked.bare hs
    | false => simpa [literal, Piece.segments, quoteLiteral, quotedForm] using Marked.mark hs
  · cases isStatic with
    | true =>
      simpa [literal, Piece.segments, Piece.emptied, quoteLiteral, quotedForm] using
        Marked.bare hnil
    | false =>
      simpa [literal, Piece.segments, Piece.emptied, quoteLiteral, quotedForm] using
        Marked.mark hnil
  · exact ⟨rfl, rfl⟩
  · exact List.IsChain.singleton _
  · simp [Piece.isQuoteFree]

/-- A marked literal without quotes. -/
theorem other (h : hasReserved s = false) (hq : quoteFree = true → '\x27' ∉ s.toList) :
    Layout quoteFree (mark s) (mark s) [.other s.toList] := by
  constructor
  · exact .mark h
  · exact .mark h
  · exact ⟨rfl, rfl⟩
  · exact List.IsChain.singleton _
  · intro hqf
    simpa [Piece.isQuoteFree, hasQuote] using hq hqf

end Layout

namespace Standalone

variable {quoteFree : Bool} {s t : String}

theorem of_notMem (hr : hasReserved s = false) (hq : '\x27' ∉ s.toList) :
    Standalone quoteFree s where
  unreserved := hr
  even := by rw [List.count_eq_zero.mpr hq]
  notMem _ := hq

theorem of_isPhrase (h : isPhrase s = true) : Standalone quoteFree s :=
  .of_notMem (unreserved_of_isPhrase h).1 (unreserved_of_isPhrase h).2

theorem append (hs : Standalone quoteFree s) (ht : Standalone quoteFree t) :
    Standalone quoteFree (s ++ t) where
  toBare := hs.toBare.append ht.toBare
  notMem hq := by
    rw [String.toList_append, List.mem_append, not_or]
    exact ⟨hs.notMem hq, ht.notMem hq⟩

theorem uppercase (h : Standalone quoteFree s) : Standalone quoteFree (Text.uppercase s) where
  toBare := h.toBare.uppercase
  notMem hq := by
    rw [← List.count_eq_zero, Text.count_uppercase (by decide), List.count_eq_zero]
    exact h.notMem hq

end Standalone

namespace LaidOut

variable {quoteFree : Bool} {s t : String} {vs : List QuotedLiteral}

theorem bare (h : Standalone quoteFree s) : LaidOut quoteFree s s [] :=
  ⟨_, .plain h, Piece.filterMap_quoted?_plain _⟩

theorem joined {sep s' t' : String} {ws : List QuotedLiteral} (hsep : isSeparator sep = true)
    (hstand : Standalone quoteFree sep) (h : LaidOut quoteFree s t vs)
    (h' : LaidOut quoteFree s' t' ws) :
    LaidOut quoteFree (s ++ sep ++ s') (t ++ sep ++ t') (vs ++ ws) := by
  obtain ⟨ps, hps, rfl⟩ := h
  obtain ⟨qs, hqs, rfl⟩ := h'
  refine ⟨_, hps.joined hsep hstand hqs, ?_⟩
  rw [List.filterMap_append, List.filterMap_append, Piece.filterMap_quoted?_plain, List.append_nil]

/-- Parentheses around a text, after the name of a function or nothing. -/
theorem enclosed {name : String} (hname : Standalone quoteFree name)
    (h : LaidOut quoteFree s t vs) :
    LaidOut quoteFree (name ++ parenthesized s) (name ++ parenthesized t) vs := by
  have hempty : LaidOut quoteFree "" "" [] := .bare (.of_isPhrase (by decide))
  have hopen : Standalone quoteFree "(" := .of_notMem (by decide) (by decide)
  have hclose : Standalone quoteFree ")" := .of_notMem (by decide) (by decide)
  have hright := h.joined (by decide) hclose hempty
  have hboth := (LaidOut.bare hname).joined (by decide) hopen hright
  simpa [parenthesized, String.append_assoc] using hboth

theorem isBlankText_eq (h : LaidOut quoteFree s t vs) :
    Text.isBlankText s = Text.isBlankText t := by
  obtain ⟨ps, hps, -⟩ := h
  rw [hps.marked.isBlankText_eq, hps.emptied.isBlankText_eq,
    rendering_segments.all_isBlank_flatMap, rendering_emptied.all_isBlank_flatMap]

theorem isEmpty_eq (h : LaidOut quoteFree s t vs) : s.isEmpty = t.isEmpty := by
  obtain ⟨ps, hps, -⟩ := h
  rw [hps.marked.isEmpty_eq, hps.emptied.isEmpty_eq, rendering_segments.isEmpty_flatMap,
    rendering_emptied.isEmpty_flatMap]

theorem eq_nil (h : LaidOut quoteFree s t vs) (hb : Text.isBlankText s = true) : vs = [] := by
  obtain ⟨ps, hps, rfl⟩ := h
  rw [hps.marked.isBlankText_eq, rendering_segments.all_isBlank_flatMap, List.all_eq_true] at hb
  rw [List.filterMap_eq_nil_iff]
  intro p hp
  have hblank := hb p hp
  cases p with
  | plain c => rfl
  | quoted literal => cases hblank
  | other content => rfl

/-- A quoted literal, static or marked. -/
theorem quoted (isStatic : Bool) (h : hasReserved s = false) :
    LaidOut quoteFree (literal isStatic (quoteLiteral s)) (literal isStatic (quoteLiteral ""))
      [⟨isStatic, s⟩] :=
  ⟨_, .quoted isStatic h, rfl⟩

/-- A marked literal without quotes. -/
theorem marked (h : hasReserved s = false) (hq : quoteFree = true → '\x27' ∉ s.toList) :
    LaidOut quoteFree (mark s) (mark s) [] :=
  ⟨_, .other h hq, rfl⟩

/-- A literal without quotes, static or marked. -/
theorem unquoted (isStatic : Bool) (h : Standalone quoteFree s) :
    LaidOut quoteFree (literal isStatic s) (literal isStatic s) [] := by
  cases isStatic with
  | true => exact .bare h
  | false => exact .marked h.unreserved h.notMem

end LaidOut

/-- Putting texts together leaves their quoted literals as they are. -/
theorem assembly_laidOut (quoteFree : Bool) :
    Assembly id (Standalone quoteFree) (LaidOut quoteFree) where
  phrase := .of_isPhrase
  append := .append
  uppercase := .uppercase
  bare := .bare
  joined := by
    intro sep a b c d vs ws hsep hab hcd
    obtain ⟨hsep, hphrase⟩ := Bool.and_eq_true_iff.mp hsep
    exact hab.joined hsep (.of_isPhrase hphrase) hcd
  enclosed := .enclosed
  isBlankText_eq := LaidOut.isBlankText_eq
  isEmpty_eq := LaidOut.isEmpty_eq
  eq_nil := LaidOut.eq_nil
  withoutLeadingOperand := by
    rintro a b vs ⟨ps, hps, rfl⟩
    exact ⟨_, hps.withoutLeadingOperand, filterMap_withoutLeadingOperandPieces (fun _ _ => rfl) _⟩
  normalizeSpacing := by
    rintro a b vs ⟨ps, hps, rfl⟩
    exact ⟨_, hps.normalizeSpacing, filterMap_quoted?_respacePieces _ _⟩

end QuerySql
