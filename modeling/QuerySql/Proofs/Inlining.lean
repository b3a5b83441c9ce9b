import QuerySql.Proofs.Alike

/-!
# Literals written in

A literal that stands in quotes or is a single word reads the same to every pass, marked or not: no
blank at its ends and no operand can be told from it. So the passes over a marked text and over the
text with its literals written in go together, even after an apostrophe that was never meant as a
quote.

* `Solid`: the contents of such literals.
* `written_respaceParts`, `SolidParts.legible`: the two passes and the literals.
* `Inlined s t`: all literals of `s` are solid, and `t` is `s` with its literals written in.
* `fragmentRelation_inlined`: putting texts together keeps this.
-/

namespace QuerySql

open Compile

namespace Sql

/-! ## Solid literals -/

/-- The content of a literal that reads the same marked or not: quoted, or a single word. -/
inductive Solid : List Char → Prop
  | quoted (cs : List Char) : Solid (quotedForm cs)
  | word {b : List Char} : b ≠ [] → (∀ c ∈ b, Text.isBlank c = false ∧ c ≠ '\x27') → Aloof b →
    Solid b

theorem Solid.aloof {b : List Char} (h : Solid b) : Aloof b := by
  cases h with
  | quoted cs => exact aloof_cons (by decide) _
  | word _ _ haloof => exact haloof

theorem Solid.exists_cons {b : List Char} (h : Solid b) :
    ∃ c cs, b = c :: cs ∧ Text.isBlank c = false := by
  cases h with
  | quoted cs => exact ⟨_, _, rfl, by decide⟩
  | word hne hchars _ =>
    obtain ⟨c, cs, rfl⟩ := List.exists_cons_of_ne_nil hne
    exact ⟨c, cs, rfl, (hchars c List.mem_cons_self).1⟩

/-- Within quotes, the rest of a quoted literal is copied, and the scan leaves the quotes. -/
theorem Mode.run_quoted_double (ahead : Bool) (cs : List Char) :
    Mode.quoted.run ahead (Text.double '\x27' cs ++ ['\x27']) =
      (Text.double '\x27' cs ++ ['\x27'], .free false true) := by
  induction cs with
  | nil => rfl
  | cons c cs ih =>
    by_cases hc : c = '\x27'
    · -- A doubled apostrophe leaves the quotes and enters them again, since another one follows.
      have henter : (Mode.free false true).step true '\x27' = (['\x27'], .quoted) := by decide
      have hleave : ∀ ahead, Mode.quoted.step ahead '\x27' = (['\x27'], .free false true) :=
        fun _ => rfl
      subst hc
      simp [Text.double_cons, Mode.run, hasQuote, hleave, henter, ih]
    · simp [Text.double_cons, hc, Mode.run, Mode.step, ih]

/-- Outside of quotes a word is copied. -/
theorem Mode.run_word {b : List Char} (hne : b ≠ [])
    (h : ∀ c ∈ b, Text.isBlank c = false ∧ c ≠ '\x27') (ahead gap started : Bool) :
    (Mode.free gap started).run ahead b = ((Mode.free gap started).due ++ b, .free false true) := by
  induction b generalizing gap started with
  | nil => exact absurd rfl hne
  | cons c b ih =>
    rw [List.forall_mem_cons] at h
    have hstep : ∀ ahead, (Mode.free gap started).step ahead c =
        ((Mode.free gap started).due ++ [c], .free false true) := by
      intro ahead
      simp [Mode.step_free h.1.1, h.1.2]
    cases b with
    | nil => simp [Mode.run, hstep]
    | cons d b =>
      have hrest := ih (List.cons_ne_nil d b) h.2 false true
      rw [Mode.run, hstep]
      simp only
      rw [hrest]
      simp [Mode.due]

/-- Outside of quotes a solid literal is copied. -/
theorem Solid.run_free {b : List Char} (h : Solid b) (ahead gap started : Bool) :
    (Mode.free gap started).run ahead b = ((Mode.free gap started).due ++ b, .free false true) := by
  cases h with
  | quoted cs =>
    have henter : (Mode.free gap started).step true '\x27' =
        ((Mode.free gap started).due ++ ['\x27'], .quoted) := by
      cases gap <;> cases started <;> decide
    simp [quotedForm, Mode.run, hasQuote, henter, Mode.run_quoted_double]
  | word hne hchars _ => exact Mode.run_word hne hchars ahead gap started

/-- Within quotes a solid literal becomes another one, and no blank is due after it. -/
theorem Solid.run_quoted {b : List Char} (h : Solid b) (ahead : Bool) :
    Solid (Mode.quoted.run ahead b).1 ∧ (Mode.quoted.run ahead b).2.due = [] ∧
      (Mode.quoted.run ahead b).2.settled = (Mode.quoted.run ahead b).2 := by
  cases h with
  | quoted cs =>
    obtain ⟨ds, hds⟩ := Mode.run_quotedForm ahead cs
    rw [hds]
    cases ahead <;> exact ⟨.quoted ds, rfl, rfl⟩
  | word hne hchars haloof =>
    have hquote : hasQuote b = false := by
      simp only [hasQuote, List.contains_eq_mem, decide_eq_false_iff_not]
      exact fun hm => (hchars _ hm).2 rfl
    rw [Mode.run_quoted ahead hquote]
    exact ⟨.word hne hchars haloof, rfl, rfl⟩

/-! ## The passes -/

/-- All literals among the parts are solid. -/
def SolidParts (ps : List Segment) : Prop := ∀ b, Segment.literal b ∈ ps → Solid b

theorem SolidParts.cons_iff {p : Segment} {ps : List Segment} :
    SolidParts (p :: ps) ↔ (∀ b, p = .literal b → Solid b) ∧ SolidParts ps := by
  simp only [SolidParts, List.mem_cons, or_imp, forall_and]
  exact and_congr_left fun _ => forall_congr' fun b => by rw [eq_comm]

theorem solidParts_plain (cs : List Char) : SolidParts (cs.map .plain) := by
  intro b hb
  obtain ⟨c, -, heq⟩ := List.mem_map.mp hb
  cases heq

theorem SolidParts.mono {ps qs : List Segment} (h : SolidParts ps) (hsub : ∀ p ∈ qs, p ∈ ps) :
    SolidParts qs :=
  fun b hb => h b (hsub _ hb)

theorem SolidParts.append {ps qs : List Segment} (hp : SolidParts ps) (hq : SolidParts qs) :
    SolidParts (ps ++ qs) := by
  intro b hb
  exact (List.mem_append.mp hb).elim (hp b) (hq b)

theorem SolidParts.respaceParts {ps : List Segment} (h : SolidParts ps) (m : Mode) :
    SolidParts (respaceParts m ps) := by
  induction ps generalizing m with
  | nil => exact fun b hb => nomatch hb
  | cons p ps ih =>
    obtain ⟨hp, hps⟩ := SolidParts.cons_iff.mp h
    cases p with
    | plain c => exact (solidParts_plain _).append (ih hps _)
    | literal b =>
      cases m with
      | free gap started =>
        exact (solidParts_plain _).append (SolidParts.cons_iff.mpr ⟨hp, ih hps _⟩)
      | quoted =>
        obtain ⟨hsolid, hdue, -⟩ := (hp b rfl).run_quoted (ps.any fun p => hasQuote p.written)
        simp only [Sql.respaceParts, hdue, List.append_nil]
        refine SolidParts.cons_iff.mpr ⟨fun b' hb' => ?_, ih hps _⟩
        cases hb'
        exact hsolid

theorem hasQuote_written (ps : List Segment) :
    hasQuote (ps.flatMap Segment.written) = ps.any fun p => hasQuote p.written := by
  induction ps with
  | nil => rfl
  | cons p ps ih => rw [List.flatMap_cons, hasQuote_append, ih, List.any_cons]

/-- Respacing a marked text respaces the text with its literals written in. -/
theorem written_respaceParts {ps : List Segment} (hu : ∀ p ∈ ps, p.Unreserved)
    (hs : SolidParts ps) (m : Mode) :
    (respaceParts m ps).flatMap Segment.written = m.respace (ps.flatMap Segment.written) := by
  induction ps generalizing m with
  | nil => cases m <;> rfl
  | cons p ps ih =>
    obtain ⟨hp, hps⟩ := SolidParts.cons_iff.mp hs
    have hup := hu p List.mem_cons_self
    have ih := ih (fun q hq => hu q (List.mem_cons_of_mem _ hq)) hps
    cases p with
    | plain c =>
      have hc : isReserved c = false := hup c (by simp [Segment.written])
      simp only [respaceParts, List.flatMap_cons, List.flatMap_append, flatMap_written_plain, ih]
      rw [Segment.written, List.singleton_append, m.respace_cons _ hc, hasQuote_written]
    | literal b =>
      have hrun := m.respace_append b (ps.flatMap Segment.written) hup
      rw [List.flatMap_cons, Segment.written, hrun, hasQuote_written]
      cases m with
      | free gap started =>
        simp only [respaceParts, List.flatMap_append, List.flatMap_cons, flatMap_written_plain, ih,
          (hp b rfl).run_free, Segment.written, List.append_assoc]
      | quoted =>
        obtain ⟨-, hdue, hsettled⟩ := (hp b rfl).run_quoted (ps.any fun p => hasQuote p.written)
        simp only [respaceParts, List.flatMap_cons, hdue, hsettled, List.append_nil, ih]
        rfl

/-- A solid literal is taken neither for a blank nor for an operand. -/
theorem SolidParts.legible {ps : List Segment} (h : SolidParts ps) :
    Legible Segment.written ps where
  plain _ := rfl
  starts hb := (h _ hb).exists_cons
  aloof hb := (h _ hb).aloof

theorem SolidParts.withoutLeadingOperandParts {ps : List Segment} (h : SolidParts ps) :
    SolidParts (withoutLeadingOperandParts ps) := by
  obtain ⟨pre, hpre, -⟩ := withoutLeadingOperandParts_suffix ps
  refine h.mono fun p hp => ?_
  rw [hpre]
  exact List.mem_append_right _ hp

/-! ## Texts with their literals written in -/

/-- The literals of the first text are solid, and the second is the first with its literals written
in. -/
def Inlined (s t : String) : Prop :=
  ∃ ps, Marked s ps ∧ SolidParts ps ∧ t = String.ofList (ps.flatMap Segment.written)

/-- Putting texts together puts together what they are with their literals written in. -/
theorem fragmentRelation_inlined : FragmentRelation Inlined where
  bare := by
    intro s hs
    exact ⟨_, .bare hs, solidParts_plain _, by rw [flatMap_written_plain, String.ofList_toList]⟩
  joined := by
    rintro sep a b c d hsep ⟨ps, hps, hsolid, rfl⟩ ⟨qs, hqs, hsolid', rfl⟩
    have hbare : Marked sep (sep.toList.map .plain) := by
      refine .bare ?_
      simp only [isSeparator, Bool.and_eq_true, Bool.not_eq_true'] at hsep
      exact hsep.1.1
    refine ⟨_, (hps.append hbare).append hqs,
      (hsolid.append (solidParts_plain _)).append hsolid', ?_⟩
    simp only [List.flatMap_append, flatMap_written_plain, String.ofList_append,
      String.ofList_toList]
  isBlankText_eq := by
    rintro a b ⟨ps, hps, hsolid, rfl⟩
    rw [hps.isBlankText_eq, hsolid.legible.isBlankText_eq]
  isEmpty_eq := by
    rintro a b ⟨ps, hps, hsolid, rfl⟩
    rw [hps.isEmpty_eq, hsolid.legible.isEmpty_eq]
  withoutLeadingOperand := by
    rintro a b ⟨ps, hps, hsolid, rfl⟩
    exact ⟨_, hps.withoutLeadingOperand, hsolid.withoutLeadingOperandParts,
      hsolid.legible.withoutLeadingOperand_eq⟩
  normalizeSpacing := by
    rintro a b ⟨ps, hps, hsolid, rfl⟩
    refine ⟨_, hps.normalizeSpacing, hsolid.respaceParts _, ?_⟩
    rw [written_respaceParts hps.unreserved hsolid, Sql.normalizeSpacing, String.toList_ofList]
    rfl

/-- A solid literal, marked or static. -/
theorem Inlined.literal (isStatic : Bool) {s : String} (hs : hasReserved s = false)
    (h : Solid s.toList) : Inlined (literal isStatic s) s := by
  cases isStatic with
  | true => exact fragmentRelation_inlined.bare hs
  | false =>
    refine ⟨_, .mark hs, ?_, ?_⟩
    · rw [SolidParts.cons_iff]
      exact ⟨fun b hb => by cases hb; exact h, fun b hb => nomatch hb⟩
    · simp [Segment.written]

theorem Inlined.unmark_eq {s t : String} (h : Inlined s t) : unmark s = t := by
  obtain ⟨ps, hps, -, rfl⟩ := h
  exact hps.unmark_eq

/-- Nothing is left to write in. -/
theorem Inlined.unmark_right {s t : String} (h : Inlined s t) : unmark t = t := by
  obtain ⟨ps, hps, -, rfl⟩ := h
  have hbare : hasReserved (String.ofList (ps.flatMap Segment.written)) = false := by
    rw [hasReserved_ofList]
    intro c hc
    obtain ⟨p, hp, hc⟩ := List.mem_flatMap.mp hc
    exact hps.unreserved p hp c hc
  rw [(Marked.bare hbare).unmark_eq, flatMap_written_plain, String.ofList_toList]

end Sql

end QuerySql
