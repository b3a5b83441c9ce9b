import QuerySql.Proofs.Alike
import QuerySql.Proofs.Quoting

/-!
# Texts, piece by piece

The parts of a marked text tell the literals that are marked from all else. A static literal is
written in plain characters and is not told from them. The pieces of a text keep every quoted
literal together, static or not. Where the other apostrophes come in pairs, respacing goes over a
quoted literal in plain characters as it does over a marked one, so it works on pieces.

* `Piece`: a character, a quoted literal or another literal that is marked.
* `Rendering`: a way to write pieces as parts, with some literals marked and others not.
* `Rendering.respaceParts_flatMap`: respacing works piece by piece, whichever literals are marked.
* `Rendering.withoutLeadingOperandParts_flatMap`: so does taking the operand off a filter.
-/

namespace QuerySql

open Compile Sql

/-- A literal in quotes: its text, and whether it is written into the statement. -/
structure QuotedLiteral where
  isStatic : Bool
  text : String
  deriving DecidableEq

namespace Sql

/-- A piece of the text of a statement. -/
inductive Piece where
  | plain (c : Char)
  | quoted (literal : QuotedLiteral)
  /-- A marked literal that is not quoted. -/
  | other (content : List Char)
  deriving DecidableEq

namespace Piece

/-- The parts of a piece: a quoted literal that is static consists of plain characters. -/
def segments : Piece → List Segment
  | .plain c => [.plain c]
  | .quoted ⟨true, text⟩ => (quotedForm text.toList).map .plain
  | .quoted ⟨false, text⟩ => [.literal (quotedForm text.toList)]
  | .other content => [.literal content]

/-- The piece as one part, as if every literal were marked. -/
def segment : Piece → Segment
  | .plain c => .plain c
  | .quoted literal => .literal (quotedForm literal.text.toList)
  | .other content => .literal content

/-- The piece with nothing between its quotes. -/
def emptied : Piece → Piece
  | .quoted ⟨isStatic, _⟩ => .quoted ⟨isStatic, ""⟩
  | p => p

def quoted? : Piece → Option QuotedLiteral
  | .quoted literal => some literal
  | _ => none

def isLiteral : Piece → Bool
  | .plain _ => false
  | _ => true

def isBlank : Piece → Bool
  | .plain c => Text.isBlank c
  | _ => false

/-- Outside of quotes there is no apostrophe. -/
def isQuoteFree : Piece → Bool
  | .plain c => c != '\x27'
  | .quoted _ => true
  | .other content => !hasQuote content

theorem segment_eq_plain {p : Piece} {c : Char} (h : p.segment = .plain c) : p = .plain c := by
  cases p <;> cases h
  rfl

theorem map_segment_plain (cs : List Char) :
    (cs.map Piece.plain).map segment = cs.map .plain := by
  simp [Function.comp_def, segment]

theorem eq_map_plain {ps : List Piece} {cs : List Char} (h : ps.map segment = cs.map .plain) :
    ps = cs.map .plain := by
  induction ps generalizing cs with
  | nil =>
    rw [List.map_nil, eq_comm, List.map_eq_nil_iff] at h
    rw [h, List.map_nil]
  | cons p ps ih =>
    cases cs with
    | nil => cases h
    | cons c cs =>
      obtain ⟨hp, hps⟩ := List.cons.inj h
      rw [segment_eq_plain hp, ih hps, List.map_cons]

theorem filterMap_quoted?_plain (cs : List Char) : (cs.map Piece.plain).filterMap quoted? = [] := by
  simp [List.filterMap_map, quoted?, Function.comp_def]

end Piece

/-! ## Renderings -/

/-- The parts of a literal, marked or quoted. -/
inductive LiteralParts : List Segment → Prop
  | marked (b : List Char) : LiteralParts [.literal b]
  | quoted (cs : List Char) : LiteralParts ((quotedForm cs).map .plain)

/-- A way to write pieces as parts: characters stay, and literals become literals. -/
structure Rendering (f : Piece → List Segment) : Prop where
  plain (c : Char) : f (.plain c) = [.plain c]
  literal {p : Piece} : p.isLiteral = true → LiteralParts (f p)

theorem rendering_segments : Rendering Piece.segments where
  plain _ := rfl
  literal {p} hp := by
    match p with
    | .plain c => cases hp
    | .quoted ⟨true, text⟩ => exact .quoted _
    | .quoted ⟨false, text⟩ => exact .marked _
    | .other content => exact .marked _

theorem rendering_emptied : Rendering fun p => p.emptied.segments where
  plain _ := rfl
  literal {p} hp := rendering_segments.literal (by cases p <;> first | rfl | cases hp)

theorem rendering_segment : Rendering fun p => [p.segment] where
  plain _ := rfl
  literal {p} hp := by cases p <;> first | exact .marked _ | cases hp

namespace LiteralParts

variable {qs : List Segment} (h : LiteralParts qs)

include h

/-- The first part of a literal is no blank and no character of a word. -/
theorem exists_cons :
    ∃ p rest, qs = p :: rest ∧ p.isBlank = false ∧ ∀ c, c ≠ '\x27' → p ≠ .plain c := by
  cases h with
  | marked b => exact ⟨_, _, rfl, rfl, by simp⟩
  | quoted cs =>
    refine ⟨.plain '\x27', _, rfl, by decide, fun c hc he => ?_⟩
    exact hc (Segment.plain.inj he).symm

omit h in
/-- From within quotes, the rest of a quoted literal is copied. -/
theorem respaceParts_double (cs : List Char) (ps : List Segment) :
    respaceParts .quoted ((Text.double '\x27' cs ++ ['\x27']).map .plain ++ ps) =
      (Text.double '\x27' cs ++ ['\x27']).map .plain ++ respaceParts (.free false true) ps := by
  induction cs with
  | nil => rfl
  | cons c cs ih =>
    have hahead : (((Text.double '\x27' cs ++ ['\x27']).map Segment.plain ++ ps).any
        fun p => hasQuote p.written) = true := by
      simp [Segment.written, hasQuote]
    rw [Text.double_cons]
    by_cases hc : c = '\x27'
    · -- A doubled apostrophe leaves the quotes and enters them again, since another one follows.
      have henter : (Mode.free false true).step true '\x27' = (['\x27'], .quoted) := by decide
      subst hc
      simp only [if_true, List.cons_append, List.nil_append, List.map_cons]
      rw [respaceParts_plain, Mode.step, if_pos rfl, respaceParts_plain, hahead, henter, ih]
      rfl
    · have hcopy : Mode.quoted.step true c = ([c], .quoted) := by simp [Mode.step, hc]
      simp only [hc, if_false, List.cons_append, List.nil_append, List.map_cons]
      rw [respaceParts_plain, hahead, hcopy, ih]
      rfl

/-- A literal that the scan meets outside of quotes is copied. -/
theorem respaceParts_append (gap started : Bool) (ps : List Segment) :
    respaceParts (.free gap started) (qs ++ ps) =
      (Mode.free gap started).due.map .plain ++ qs ++ respaceParts (.free false true) ps := by
  cases h with
  | marked b => simp [respaceParts]
  | quoted cs =>
    have hahead : (((Text.double '\x27' cs ++ ['\x27']).map Segment.plain ++ ps).any
        fun p => hasQuote p.written) = true := by
      simp [Segment.written, hasQuote]
    have henter : (Mode.free gap started).step true '\x27' =
        ((Mode.free gap started).due ++ ['\x27'], .quoted) := by
      cases gap <;> cases started <;> decide
    simp only [quotedForm, List.cons_append, List.map_cons]
    rw [respaceParts_plain, hahead, henter, respaceParts_double]
    simp

end LiteralParts

/-! ## Respacing -/

/-- Respaces pieces from a mode on. -/
def respacePieces : Mode → List Piece → List Piece
  | _, [] => []
  | m, .plain c :: ps => (m.step true c).1.map .plain ++ respacePieces (m.step true c).2 ps
  | m, p :: ps => m.due.map .plain ++ p :: respacePieces (.free false true) ps

theorem respacePieces_literal (m : Mode) {p : Piece} (hp : p.isLiteral = true) (ps : List Piece) :
    respacePieces m (p :: ps) = m.due.map .plain ++ p :: respacePieces (.free false true) ps := by
  cases p with
  | plain c => cases hp
  | quoted literal => rfl
  | other content => rfl

theorem Piece.isLiteral_or_plain (p : Piece) : p.isLiteral = true ∨ ∃ c, p = .plain c := by
  cases p with
  | plain c => exact .inr ⟨c, rfl⟩
  | quoted literal => exact .inl rfl
  | other content => exact .inl rfl

theorem Piece.isBlank_of_isLiteral {p : Piece} (hp : p.isLiteral = true) : p.isBlank = false := by
  cases p with
  | plain c => cases hp
  | quoted literal => rfl
  | other content => rfl

theorem Piece.exists_segment_eq_literal {p : Piece} (hp : p.isLiteral = true) :
    ∃ b, p.segment = .literal b := by
  cases p with
  | plain c => cases hp
  | quoted literal => exact ⟨_, rfl⟩
  | other content => exact ⟨_, rfl⟩

namespace Rendering

variable {f : Piece → List Segment} (hf : Rendering f)

include hf

theorem flatMap_plain (cs : List Char) : (cs.map Piece.plain).flatMap f = cs.map .plain := by
  rw [List.flatMap_map, List.map_eq_flatMap]
  simp only [hf.plain]

/-- An apostrophe that lacks its partner has it among the characters that follow. -/
theorem any_hasQuote {ps : List Piece} (h : Paired true (ps.map Piece.segment)) :
    ((ps.flatMap f).any fun p => hasQuote p.written) = true := by
  induction ps with
  | nil => cases h
  | cons p ps ih =>
    rcases p.isLiteral_or_plain with hp | ⟨c, rfl⟩
    · obtain ⟨b, hb⟩ := Piece.exists_segment_eq_literal hp
      rw [List.map_cons, hb] at h
      cases h.1
    · rw [List.flatMap_cons, hf.plain, List.any_append]
      by_cases hc : c = '\x27'
      · simp [hc, Segment.written, hasQuote]
      · have hbeq : (c == '\x27') = false := by simpa using hc
        rw [List.map_cons, Piece.segment, Paired, hbeq, Bool.bne_false] at h
        rw [ih h, Bool.or_true]

/-- Where apostrophes come in pairs, respacing works piece by piece. -/
theorem respaceParts_flatMap {m : Mode} {ps : List Piece}
    (h : Paired m.isQuoted (ps.map Piece.segment)) :
    respaceParts m (ps.flatMap f) = (respacePieces m ps).flatMap f := by
  induction ps generalizing m with
  | nil => rfl
  | cons p ps ih =>
    rcases p.isLiteral_or_plain with hp | ⟨c, rfl⟩
    · obtain ⟨b, hb⟩ := Piece.exists_segment_eq_literal hp
      rw [List.map_cons, hb] at h
      obtain ⟨hmode, hrest⟩ := h
      cases m with
      | quoted => cases hmode
      | free gap started =>
        rw [List.flatMap_cons, (hf.literal hp).respaceParts_append, @ih (.free false true) hrest,
          respacePieces_literal _ hp, List.flatMap_append, List.flatMap_cons, hf.flatMap_plain]
        simp
    · rw [List.map_cons, Piece.segment, Paired] at h
      have hahead : (m.isQuoted != (c == '\x27')) = true →
          ((ps.flatMap f).any fun p => hasQuote p.written) = true :=
        fun hopen => hf.any_hasQuote (by rwa [hopen] at h)
      have hmode : Paired (m.step true c).2.isQuoted (ps.map Piece.segment) := by
        rwa [m.isQuoted_step fun _ => rfl]
      rw [List.flatMap_cons, hf.plain, List.singleton_append, Sql.respaceParts_plain,
        m.step_congr hahead, ih hmode, respacePieces, List.flatMap_append, hf.flatMap_plain]

end Rendering

theorem respaceParts_map_segment {m : Mode} {ps : List Piece}
    (h : Paired m.isQuoted (ps.map Piece.segment)) :
    respaceParts m (ps.map Piece.segment) = (respacePieces m ps).map Piece.segment := by
  simp only [List.map_eq_flatMap]
  exact rendering_segment.respaceParts_flatMap h

/-- Respacing keeps all that is observed of pieces but blanks. -/
theorem filterMap_respacePieces {β : Type} {f : Piece → Option β}
    (hf : ∀ c, Text.isBlank c = true → f (.plain c) = none) (m : Mode) (ps : List Piece) :
    (respacePieces m ps).filterMap f = ps.filterMap f := by
  have hspace : f (.plain ' ') = none := hf ' ' (by decide)
  induction ps generalizing m with
  | nil => rfl
  | cons p ps ih =>
    rcases p.isLiteral_or_plain with hp | ⟨c, rfl⟩
    · have hdue : (m.due.map Piece.plain).filterMap f = [] := by
        rcases m.due_written with hdue | hdue <;> simp [hdue, hspace]
      rw [respacePieces_literal m hp, List.filterMap_append, hdue, List.nil_append,
        List.filterMap_cons, List.filterMap_cons, ih]
    · have hstep : ((m.step true c).1.map Piece.plain).filterMap f = [Piece.plain c].filterMap f := by
        rcases m.step_written true c with ⟨hw, hblank⟩ | hw | hw
        · simp [hw, hf c hblank]
        · simp [hw]
        · simp [hw, hspace]
      rw [respacePieces, List.filterMap_append, hstep, ih, ← List.filterMap_append]
      rfl

theorem filterMap_quoted?_respacePieces (m : Mode) (ps : List Piece) :
    (respacePieces m ps).filterMap Piece.quoted? = ps.filterMap Piece.quoted? :=
  filterMap_respacePieces (fun _ _ => rfl) m ps

/-- Respacing writes no apostrophe of its own. -/
theorem isQuoteFree_respacePieces (m : Mode) {ps : List Piece}
    (h : ∀ p ∈ ps, p.isQuoteFree = true) : ∀ p ∈ respacePieces m ps, p.isQuoteFree = true := by
  have hspace : (Piece.plain ' ').isQuoteFree = true := by decide
  induction ps generalizing m with
  | nil => exact h
  | cons p ps ih =>
    obtain ⟨hp, hps⟩ := List.forall_mem_cons.mp h
    rcases p.isLiteral_or_plain with hl | ⟨c, rfl⟩
    · rw [respacePieces_literal m hl, List.forall_mem_append, List.forall_mem_cons]
      refine ⟨?_, hp, ih _ hps⟩
      rcases m.due_written with hdue | hdue
      · simp [hdue]
      · simpa [hdue] using hspace
    · rw [respacePieces, List.forall_mem_append]
      refine ⟨?_, ih _ hps⟩
      rcases m.step_written true c with ⟨hw, -⟩ | hw | hw
      · simp [hw]
      · simpa [hw] using hp
      · simpa [hw] using ⟨hspace, hp⟩

end Sql

/-! ## Leading operands -/

namespace Compile

/-- The pieces after the word, if the word ends there. -/
def afterOperandPieces? (operand : Operand) (ps : List Piece) : Option (List Piece) :=
  let word := operand.keyword.toList.map Piece.plain
  let rest := ps.drop word.length
  if word.isPrefixOf ps && rest.head?.all Piece.isBlank then some rest else none

/-- The pieces without an operand before the first condition. -/
def withoutLeadingOperandPieces (ps : List Piece) : List Piece :=
  let ps := ps.dropWhile Piece.isBlank
  let rest := ((afterOperandPieces? .and ps).or (afterOperandPieces? .or ps)).map
    (List.dropWhile Piece.isBlank)
  rest.getD ps

theorem withoutLeadingOperandPieces_suffix (ps : List Piece) :
    withoutLeadingOperandPieces ps <:+ ps := by
  have hafter : ∀ {operand : Operand} {ps rest : List Piece},
      afterOperandPieces? operand ps = some rest → rest <:+ ps := by
    intro operand ps rest h
    simp only [afterOperandPieces?] at h
    split at h
    · cases h
      exact List.drop_suffix _ _
    · cases h
  have hstart : ps.dropWhile Piece.isBlank <:+ ps := List.dropWhile_suffix _
  have hrest : ∀ {operand : Operand} {rest : List Piece},
      afterOperandPieces? operand (ps.dropWhile Piece.isBlank) = some rest →
      rest.dropWhile Piece.isBlank <:+ ps :=
    fun h => ((List.dropWhile_suffix _).trans (hafter h)).trans hstart
  simp only [withoutLeadingOperandPieces]
  cases hand : afterOperandPieces? .and (ps.dropWhile Piece.isBlank) with
  | some rest => exact hrest hand
  | none =>
    cases hor : afterOperandPieces? .or (ps.dropWhile Piece.isBlank) with
    | some rest => exact hrest hor
    | none => exact hstart

end Compile

namespace Sql.Rendering

variable {f : Piece → List Segment} (hf : Rendering f)

include hf

theorem dropWhile_flatMap (ps : List Piece) :
    (ps.flatMap f).dropWhile Segment.isBlank = (ps.dropWhile Piece.isBlank).flatMap f := by
  induction ps with
  | nil => rfl
  | cons p ps ih =>
    rcases p.isLiteral_or_plain with hp | ⟨c, rfl⟩
    · obtain ⟨q, rest, hq, hblank, -⟩ := (hf.literal hp).exists_cons
      simp [hq, hblank, Piece.isBlank_of_isLiteral hp]
    · cases hc : Text.isBlank c <;>
        simp [hf.plain, Piece.isBlank, Segment.isBlank, hc, ih]

theorem head?_all_isBlank (ps : List Piece) :
    (ps.flatMap f).head?.all Segment.isBlank = ps.head?.all Piece.isBlank := by
  cases ps with
  | nil => rfl
  | cons p ps =>
    rcases p.isLiteral_or_plain with hp | ⟨c, rfl⟩
    · obtain ⟨q, rest, hq, hblank, -⟩ := (hf.literal hp).exists_cons
      simp [hq, hblank, Piece.isBlank_of_isLiteral hp]
    · simp [hf.plain, Piece.isBlank, Segment.isBlank]

theorem isPrefixOf_flatMap {word : List Char} (hw : '\x27' ∉ word) (ps : List Piece) :
    (word.map Segment.plain).isPrefixOf (ps.flatMap f) =
      (word.map Piece.plain).isPrefixOf ps := by
  induction word generalizing ps with
  | nil => simp
  | cons w word ih =>
    simp only [List.mem_cons, not_or] at hw
    cases ps with
    | nil => rfl
    | cons p ps =>
      rcases p.isLiteral_or_plain with hp | ⟨c, rfl⟩
      · obtain ⟨q, rest, hq, -, hne⟩ := (hf.literal hp).exists_cons
        have hwq : (Segment.plain w == q) = false := by simpa using Ne.symm (hne w (Ne.symm hw.1))
        have hwp : (Piece.plain w == p) = false := by
          cases p with
          | plain c => cases hp
          | quoted literal => simp
          | other content => simp
        simp [hq, List.isPrefixOf, hwq, hwp]
      · have hc : (Segment.plain w == Segment.plain c) = (Piece.plain w == Piece.plain c) := by
          rw [Bool.eq_iff_iff]
          simp
        simp [hf.plain, List.isPrefixOf, ih hw.2, hc]

theorem drop_flatMap {word : List Char} {ps : List Piece}
    (h : (word.map Piece.plain).isPrefixOf ps = true) :
    (ps.flatMap f).drop word.length = (ps.drop word.length).flatMap f := by
  obtain ⟨rest, rfl⟩ := List.isPrefixOf_iff_prefix.mp h
  rw [List.flatMap_append, hf.flatMap_plain]
  simp

theorem afterOperandParts?_flatMap (operand : Operand) (ps : List Piece) :
    afterOperandParts? operand (ps.flatMap f) =
      (afterOperandPieces? operand ps).map (List.flatMap f) := by
  have hw : '\x27' ∉ operand.keyword.toList := by cases operand <;> decide
  simp only [afterOperandParts?, afterOperandPieces?, hf.isPrefixOf_flatMap hw, List.length_map]
  cases hp : (operand.keyword.toList.map Piece.plain).isPrefixOf ps with
  | false => simp
  | true =>
    rw [hf.drop_flatMap hp, hf.head?_all_isBlank]
    cases (ps.drop operand.keyword.toList.length).head?.all Piece.isBlank <;> simp

/-- Taking the operand off works piece by piece. -/
theorem withoutLeadingOperandParts_flatMap (ps : List Piece) :
    withoutLeadingOperandParts (ps.flatMap f) = (withoutLeadingOperandPieces ps).flatMap f := by
  simp only [withoutLeadingOperandParts, withoutLeadingOperandPieces, hf.dropWhile_flatMap,
    hf.afterOperandParts?_flatMap]
  cases afterOperandPieces? .and (ps.dropWhile Piece.isBlank) with
  | some rest => simp [hf.dropWhile_flatMap]
  | none =>
    cases afterOperandPieces? .or (ps.dropWhile Piece.isBlank) with
    | some rest => simp [hf.dropWhile_flatMap]
    | none => simp

theorem all_isBlank_flatMap (ps : List Piece) :
    (ps.flatMap f).all Segment.isBlank = ps.all Piece.isBlank := by
  induction ps with
  | nil => rfl
  | cons p ps ih =>
    rcases p.isLiteral_or_plain with hp | ⟨c, rfl⟩
    · obtain ⟨q, rest, hq, hblank, -⟩ := (hf.literal hp).exists_cons
      simp [hq, hblank, Piece.isBlank_of_isLiteral hp]
    · rw [List.flatMap_cons, hf.plain, List.singleton_append, List.all_cons, List.all_cons, ih]
      rfl

theorem isEmpty_flatMap (ps : List Piece) : (ps.flatMap f).isEmpty = ps.isEmpty := by
  cases ps with
  | nil => rfl
  | cons p ps =>
    rcases p.isLiteral_or_plain with hp | ⟨c, rfl⟩
    · obtain ⟨q, rest, hq, -, -⟩ := (hf.literal hp).exists_cons
      simp [hq]
    · simp [hf.plain]

end Sql.Rendering

end QuerySql
