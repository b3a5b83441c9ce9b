import QuerySql.Proofs.Delimited

/-!
# Texts that differ in bound values

Two texts are alike if they have the same plain characters, and in the place of each literal of one
there is a literal of the same kind in the other: the same content, or two contents without
apostrophes, or two quoted ones. These kinds are what respacing can see of a literal, even after an
apostrophe that was never meant as a quote.

* `SameKind.run`: after two contents of one kind, the scan goes on in the same mode.
* `fragmentRelation_alike`: putting texts together keeps them alike.
* `Alike.sql_eq`: alike texts have the same text with placeholders.
-/

namespace QuerySql

theorem Text.double_cons (d c : Char) (cs : List Char) :
    Text.double d (c :: cs) = (if c = d then [d, d] else [c]) ++ Text.double d cs := rfl

namespace Sql

/-- The characters between apostrophes, their own apostrophes doubled. -/
def quotedForm (cs : List Char) : List Char := '\x27' :: Text.double '\x27' cs ++ ['\x27']

/-- Two contents of literals that a scan goes over in the same way. -/
inductive SameKind : List Char → List Char → Prop
  | same (b : List Char) : SameKind b b
  | bare {b b' : List Char} : hasQuote b = false → hasQuote b' = false → SameKind b b'
  | quoted (cs cs' : List Char) : SameKind (quotedForm cs) (quotedForm cs')

/-- The same character, or two literals of one kind. -/
inductive Segment.Alike : Segment → Segment → Prop
  | plain (c : Char) : Segment.Alike (.plain c) (.plain c)
  | literal {b b' : List Char} : SameKind b b' → Segment.Alike (.literal b) (.literal b')

/-- The texts have the same plain characters and literals of the same kinds, which stand apart from
other words. -/
def Alike (s t : String) : Prop :=
  ∃ ps qs, Marked s ps ∧ Marked t qs ∧ List.Forall₂ Segment.Alike ps qs ∧ Delimited ps

/-! ## The scan of a literal -/

/-- From within quotes, a text without apostrophes is copied. -/
theorem Mode.run_quoted {b : List Char} (ahead : Bool) (h : hasQuote b = false) :
    Mode.quoted.run ahead b = (b, .quoted) := by
  induction b with
  | nil => rfl
  | cons c b ih =>
    simp only [hasQuote, List.contains_cons, Bool.or_eq_false_iff, beq_eq_false_iff_ne] at h ih
    simp [Mode.run, Mode.step, Ne.symm h.1, ih h.2]

/-- Past its first apostrophe, a quoted literal is respaced into another one, and the scan is past
its last apostrophe then. -/
theorem Mode.run_double (ahead gap : Bool) (cs : List Char) :
    ∃ cs', (Mode.free gap true).run ahead (Text.double '\x27' cs ++ ['\x27']) =
      (Text.double '\x27' cs' ++ ['\x27'], if ahead then .quoted else .free false true) := by
  induction cs generalizing gap with
  | nil =>
    have hb : Text.isBlank '\x27' = false := by decide
    cases gap with
    | false => exact ⟨[], by simp [Text.double, Mode.run, Mode.step, hb, hasQuote]⟩
    | true => exact ⟨[' '], by simp [Text.double, Mode.run, Mode.step, hb, hasQuote]⟩
  | cons c cs ih =>
    -- A space that is due goes into the content of the literal.
    obtain ⟨due, hdue, hdouble⟩ : ∃ due, (Mode.free gap true).due = due ∧
        ∀ ds, Text.double '\x27' (due ++ ds) = due ++ Text.double '\x27' ds := by
      cases gap
      · exact ⟨[], rfl, fun ds => rfl⟩
      · exact ⟨[' '], rfl, fun ds => rfl⟩
    have hstep : ∀ (ahead : Bool) {c : Char}, Text.isBlank c = false →
        (Mode.free gap true).step ahead c =
          (due ++ [c], if c = '\x27' && ahead then .quoted else .free false true) := by
      intro ahead c hc
      rw [← hdue, Mode.step_free hc]
    by_cases hq : c = '\x27'
    · subst hq
      obtain ⟨cs', hcs⟩ := ih false
      refine ⟨due ++ '\x27' :: cs', ?_⟩
      rw [hdouble]
      have hopen := fun ahead => hstep ahead (c := '\x27') (by decide)
      have hclose : ∀ ahead, Mode.quoted.step ahead '\x27' = (['\x27'], .free false true) :=
        fun _ => rfl
      simp [Text.double_cons, Mode.run, hopen, hasQuote, hclose, hcs]
    · cases hb : Text.isBlank c with
      | true =>
        obtain ⟨cs', hcs⟩ := ih true
        exact ⟨cs', by simp [Text.double_cons, hq, Mode.run, Mode.step, hb, hcs]⟩
      | false =>
        obtain ⟨cs', hcs⟩ := ih false
        refine ⟨due ++ c :: cs', ?_⟩
        rw [hdouble]
        simp [Text.double_cons, hq, Mode.run, hstep _ hb, hcs]

/-- From within quotes, a quoted literal is respaced into another one. -/
theorem Mode.run_quotedForm (ahead : Bool) (cs : List Char) :
    ∃ ds, Mode.quoted.run ahead (quotedForm cs) =
      (quotedForm ds, if ahead then .quoted else .free false true) := by
  obtain ⟨ds, hds⟩ := Mode.run_double ahead false cs
  exact ⟨ds, by simp [quotedForm, Mode.run, Mode.step, hds]⟩

/-- After two contents of one kind, the scan goes on in the same mode. -/
theorem SameKind.run {b b' : List Char} (h : SameKind b b') (ahead : Bool) :
    SameKind ((Mode.quoted.run ahead b).1 ++ (Mode.quoted.run ahead b).2.due)
        ((Mode.quoted.run ahead b').1 ++ (Mode.quoted.run ahead b').2.due) ∧
      (Mode.quoted.run ahead b).2.settled = (Mode.quoted.run ahead b').2.settled := by
  cases h with
  | same => exact ⟨.same _, rfl⟩
  | bare hb hb' =>
    rw [Mode.run_quoted ahead hb, Mode.run_quoted ahead hb']
    simpa [Mode.due] using SameKind.bare hb hb'
  | quoted cs cs' =>
    have hdue : (if ahead then Mode.quoted else .free false true).due = [] := by
      cases ahead <;> rfl
    obtain ⟨ds, hds⟩ := Mode.run_quotedForm ahead cs
    obtain ⟨ds', hds'⟩ := Mode.run_quotedForm ahead cs'
    rw [hds, hds', hdue, List.append_nil, List.append_nil]
    exact ⟨.quoted ds ds', rfl⟩

theorem Segment.Alike.hasQuote_eq {p q : Segment} (h : p.Alike q) :
    hasQuote p.written = hasQuote q.written := by
  cases h with
  | plain c => rfl
  | literal h =>
    cases h with
    | same => rfl
    | bare hb hb' => exact hb.trans hb'.symm
    | quoted cs cs' => rfl

/-! ## Putting alike texts together -/

section Parts

variable {ps qs : List Segment} (h : List.Forall₂ Segment.Alike ps qs)

include h

theorem any_hasQuote_eq :
    (ps.any fun p => hasQuote p.written) = qs.any fun p => hasQuote p.written := by
  induction h with
  | nil => rfl
  | cons hpq _ ih => simp [hpq.hasQuote_eq, ih]

omit h in
theorem alike_plain (cs : List Char) :
    List.Forall₂ Segment.Alike (cs.map .plain) (cs.map .plain) := by
  induction cs with
  | nil => exact .nil
  | cons c cs ih => exact .cons (.plain c) ih

/-- Respacing keeps parts alike, whatever mode it is in. -/
theorem alike_respaceParts (m : Mode) :
    List.Forall₂ Segment.Alike (respaceParts m ps) (respaceParts m qs) := by
  induction h generalizing m with
  | nil => exact .nil
  | @cons p q ps qs hpq htail ih =>
    have hany := any_hasQuote_eq htail
    cases hpq with
    | plain c =>
      simp only [respaceParts, hany]
      exact List.rel_append (alike_plain _) (ih _)
    | literal hb =>
      cases m with
      | free gap started =>
        exact List.rel_append (alike_plain _) (.cons (.literal hb) (ih _))
      | quoted =>
        obtain ⟨hkind, hmode⟩ := hb.run (qs.any fun p => hasQuote p.written)
        simp only [respaceParts, hany]
        rw [hmode]
        exact .cons (.literal hkind) (ih _)

theorem alike_dropWhile :
    List.Forall₂ Segment.Alike (ps.dropWhile Segment.isBlank) (qs.dropWhile Segment.isBlank) := by
  induction h with
  | nil => exact .nil
  | @cons p q ps qs hpq htail ih =>
    cases hpq with
    | plain c =>
      rw [List.dropWhile_cons, List.dropWhile_cons]
      split
      · exact ih
      · exact .cons (.plain c) htail
    | literal hb => exact .cons (.literal hb) htail

theorem isPrefixOf_alike (word : List Char) :
    (word.map Segment.plain).isPrefixOf ps = (word.map Segment.plain).isPrefixOf qs := by
  induction h generalizing word with
  | nil => rfl
  | @cons p q ps qs hpq _ ih =>
    cases word with
    | nil => rfl
    | cons w word =>
      cases hpq with
      | plain c => simp [List.isPrefixOf, ih]
      | literal hb =>
        have hw : ∀ b, (Segment.plain w == Segment.literal b) = false := by simp
        simp [List.isPrefixOf, hw]

theorem alike_afterOperandParts? (operand : Operand) :
    Option.Rel (List.Forall₂ Segment.Alike) (Compile.afterOperandParts? operand ps)
      (Compile.afterOperandParts? operand qs) := by
  have hrest := List.forall₂_drop operand.keyword.toList.length h
  have hhead : ∀ {xs ys : List Segment}, List.Forall₂ Segment.Alike xs ys →
      xs.head?.all Segment.isBlank = ys.head?.all Segment.isBlank := by
    intro xs ys hxy
    cases hxy with
    | nil => rfl
    | cons hpq _ => cases hpq <;> rfl
  simp only [Compile.afterOperandParts?, List.length_map, isPrefixOf_alike h, hhead hrest]
  split
  · exact .some hrest
  · exact .none

theorem alike_withoutLeadingOperandParts :
    List.Forall₂ Segment.Alike (Compile.withoutLeadingOperandParts ps)
      (Compile.withoutLeadingOperandParts qs) := by
  have hps := alike_dropWhile h
  have hand := alike_afterOperandParts? hps .and
  have hor := alike_afterOperandParts? hps .or
  simp only [Compile.withoutLeadingOperandParts]
  revert hand hor
  generalize Compile.afterOperandParts? .and (ps.dropWhile Segment.isBlank) = a
  generalize Compile.afterOperandParts? .and (qs.dropWhile Segment.isBlank) = a'
  generalize Compile.afterOperandParts? .or (ps.dropWhile Segment.isBlank) = o
  generalize Compile.afterOperandParts? .or (qs.dropWhile Segment.isBlank) = o'
  intro hand hor
  cases hand with
  | some hr => exact alike_dropWhile hr
  | none =>
    cases hor with
    | some hr => exact alike_dropWhile hr
    | none => exact hps

end Parts

theorem all_isBlank_eq {ps qs : List Segment} (h : List.Forall₂ Segment.Alike ps qs) :
    ps.all Segment.isBlank = qs.all Segment.isBlank := by
  induction h with
  | nil => rfl
  | cons hpq _ ih => cases hpq <;> simp [Segment.isBlank, ih]

/-- Putting texts together keeps them alike. -/
theorem fragmentRelation_alike : FragmentRelation Alike where
  bare := by
    intro s hs
    exact ⟨_, _, .bare hs, .bare hs, alike_plain _, .plain _⟩
  joined := by
    rintro sep a b c d hsep ⟨ps, qs, hps, hqs, hpq, hd⟩ ⟨ps', qs', hps', hqs', hpq', hd'⟩
    have hbare : Marked sep (sep.toList.map .plain) := by
      refine .bare ?_
      simp only [isSeparator, Bool.and_eq_true, Bool.not_eq_true'] at hsep
      exact hsep.1.1
    exact ⟨_, _, (hps.append hbare).append hps', (hqs.append hbare).append hqs',
      List.rel_append (List.rel_append hpq (alike_plain _)) hpq', hd.joined hsep hd'⟩
  isBlankText_eq := by
    rintro a b ⟨ps, qs, hps, hqs, hpq, -⟩
    rw [hps.isBlankText_eq, hqs.isBlankText_eq, all_isBlank_eq hpq]
  isEmpty_eq := by
    rintro a b ⟨ps, qs, hps, hqs, hpq, -⟩
    rw [hps.isEmpty_eq, hqs.isEmpty_eq]
    cases hpq <;> rfl
  withoutLeadingOperand := by
    rintro a b ⟨ps, qs, hps, hqs, hpq, hd⟩
    exact ⟨_, _, hps.withoutLeadingOperand, hqs.withoutLeadingOperand,
      alike_withoutLeadingOperandParts hpq, hd.withoutLeadingOperandParts⟩
  normalizeSpacing := by
    rintro a b ⟨ps, qs, hps, hqs, hpq, hd⟩
    exact ⟨_, _, hps.normalizeSpacing, hqs.normalizeSpacing, alike_respaceParts hpq _,
      hd.respaceParts _⟩

theorem Alike.mark {l l' : String} (hl : hasReserved l = false) (hl' : hasReserved l' = false)
    (h : SameKind l.toList l'.toList) : Alike (mark l) (mark l') :=
  ⟨_, _, .mark hl, .mark hl', .cons (.literal h) .nil, List.IsChain.singleton _⟩

theorem map_placeheld_eq {ps qs : List Segment} (h : List.Forall₂ Segment.Alike ps qs) :
    ps.map Segment.placeheld = qs.map Segment.placeheld := by
  induction h with
  | nil => rfl
  | cons hpq _ ih => cases hpq <;> simp [Segment.placeheld, ih]

/-- Alike texts have the same text with placeholders. -/
theorem Alike.sql_eq {s t : String} (h : Alike s t) :
    (Statement.ofMarked s).sql = (Statement.ofMarked t).sql := by
  obtain ⟨ps, qs, hps, hqs, hpq, -⟩ := h
  rw [hps.ofMarked_eq, hqs.ofMarked_eq, map_placeheld_eq hpq]

end Sql

end QuerySql
