import QuerySql.Compile.Select
import QuerySql.Proofs.Segments

/-!
# Leading operands, part by part

Taking the operand off the first condition of a filter looks at plain characters only: a marked
literal is neither blank nor part of a word. The same goes for every way to write the parts out in
which a literal cannot be taken for either.

* `Legible f ps`: literals among `ps` stand out in what `f` writes.
* `Legible.withoutLeadingOperand_eq`: an operand is taken off the text as it is off the parts.
* `Marked.withoutLeadingOperand`: what is left of a well-marked text is a well-marked text.
-/

namespace QuerySql

open Sql

namespace Compile

/-- The parts after the word, if the word ends there. -/
def afterOperandParts? (operand : Operand) (parts : List Segment) : Option (List Segment) :=
  let word := operand.keyword.toList.map Segment.plain
  let rest := parts.drop word.length
  if word.isPrefixOf parts && rest.head?.all Segment.isBlank then some rest else none

/-- The parts without an operand before the first condition. -/
def withoutLeadingOperandParts (parts : List Segment) : List Segment :=
  let ps := parts.dropWhile Segment.isBlank
  let rest := ((afterOperandParts? .and ps).or (afterOperandParts? .or ps)).map
    (List.dropWhile Segment.isBlank)
  rest.getD ps

theorem afterOperandParts?_suffix {operand : Operand} {parts rest : List Segment}
    (h : afterOperandParts? operand parts = some rest) :
    parts = operand.keyword.toList.map Segment.plain ++ rest := by
  simp only [afterOperandParts?] at h
  split at h
  · next hc =>
    obtain ⟨rest', rfl⟩ := List.isPrefixOf_iff_prefix.mp (Bool.and_eq_true_iff.mp hc).1
    simp only [Option.some.injEq, List.drop_left] at h
    rw [h]
  · cases h

/-- A character that may stand before the first condition: a blank or a letter of an operand. -/
def isLeading (c : Char) : Bool := Text.isBlank c || ['A', 'N', 'D', 'O', 'R'].contains c

/-- Blanks are plain characters. -/
theorem dropWhile_isBlank_suffix (parts : List Segment) :
    ∃ pre : List Char, parts = pre.map Segment.plain ++ parts.dropWhile Segment.isBlank ∧
      ∀ c ∈ pre, isLeading c = true := by
  induction parts with
  | nil => exact ⟨[], rfl, by simp⟩
  | cons p parts ih =>
    obtain ⟨pre, hpre, hleading⟩ := ih
    cases p with
    | literal b => exact ⟨[], rfl, by simp⟩
    | plain c =>
      by_cases hb : Text.isBlank c
      · refine ⟨c :: pre, ?_, List.forall_mem_cons.mpr ⟨by simp [isLeading, hb], hleading⟩⟩
        simpa [Segment.isBlank, hb] using hpre
      · exact ⟨[], by simp [Segment.isBlank, hb], by simp⟩

/-- What is taken off is blanks and at most one operand. -/
theorem withoutLeadingOperandParts_suffix (parts : List Segment) :
    ∃ pre : List Char, parts = pre.map Segment.plain ++ withoutLeadingOperandParts parts ∧
      ∀ c ∈ pre, isLeading c = true := by
  obtain ⟨pre, hpre, hleading⟩ := dropWhile_isBlank_suffix parts
  have hword : ∀ operand : Operand, ∀ c ∈ operand.keyword.toList, isLeading c = true := by
    intro operand
    cases operand <;> decide
  have hsome : ∀ {operand : Operand} {rest : List Segment},
      afterOperandParts? operand (parts.dropWhile Segment.isBlank) = some rest →
      ∃ pre : List Char, parts = pre.map Segment.plain ++ rest.dropWhile Segment.isBlank ∧
        ∀ c ∈ pre, isLeading c = true := by
    intro operand rest hr
    obtain ⟨pre', hpre', hleading'⟩ := dropWhile_isBlank_suffix rest
    refine ⟨pre ++ operand.keyword.toList ++ pre', ?_, ?_⟩
    · rw [List.map_append, List.map_append, List.append_assoc, List.append_assoc, ← hpre',
        ← afterOperandParts?_suffix hr]
      exact hpre
    · simp only [List.forall_mem_append]
      exact ⟨⟨hleading, hword operand⟩, hleading'⟩
  simp only [withoutLeadingOperandParts]
  cases hand : afterOperandParts? .and (parts.dropWhile Segment.isBlank) with
  | some rest => simpa using hsome hand
  | none =>
    cases hor : afterOperandParts? .or (parts.dropWhile Segment.isBlank) with
    | some rest => simpa using hsome hor
    | none => exact ⟨pre, by simpa using hpre, hleading⟩

/-- No apostrophe or parenthesis is taken off. -/
theorem notMem_of_isLeading {pre : List Char} (h : ∀ c ∈ pre, isLeading c = true) {c : Char}
    (hc : isLeading c = false) : c ∉ pre :=
  fun hm => absurd (h c hm) (by simp [hc])

end Compile

namespace Sql

open Compile

/-! ## Parts written out -/

/-- No operand can be read off the start of the text, or from a character before it into it. -/
def Aloof (b : List Char) : Prop :=
  ∀ (operand : Operand) (w : List Char), w <:+ operand.keyword.toList → w ≠ [] →
    ¬ w <+: b ∧ ¬ b <+: w

/-- A text is aloof if its first letter is in no operand. -/
theorem aloof_cons {c : Char} (h : c ∉ ['A', 'N', 'D', 'O', 'R']) (cs : List Char) :
    Aloof (c :: cs) := by
  intro operand w hw hne
  obtain ⟨d, w, rfl⟩ := List.exists_cons_of_ne_nil hne
  have hletters : ∀ d ∈ operand.keyword.toList, d ∈ ['A', 'N', 'D', 'O', 'R'] := by
    cases operand <;> decide
  have hcd : d ≠ c := fun heq => h (heq ▸ hletters d (hw.subset List.mem_cons_self))
  exact ⟨fun hp => hcd (List.cons_prefix_cons.mp hp).1,
    fun hp => hcd (List.cons_prefix_cons.mp hp).1.symm⟩

/-- A way to write the parts out as characters, where what is written for a literal is taken neither
for a blank nor for an operand. -/
structure Legible (f : Segment → List Char) (ps : List Segment) : Prop where
  plain (c : Char) : f (.plain c) = [c]
  starts {b : List Char} : .literal b ∈ ps →
    ∃ c cs, f (.literal b) = c :: cs ∧ Text.isBlank c = false
  aloof {b : List Char} : .literal b ∈ ps → Aloof (f (.literal b))

namespace Legible

variable {f : Segment → List Char} {ps qs : List Segment}

theorem mono (h : Legible f ps) (hsub : qs ⊆ ps) : Legible f qs where
  plain := h.plain
  starts hb := h.starts (hsub hb)
  aloof hb := h.aloof (hsub hb)

theorem tail {p : Segment} (h : Legible f (p :: ps)) : Legible f ps :=
  h.mono (List.subset_cons_self p ps)

theorem flatMap_plain (h : Legible f ps) (cs : List Char) :
    (cs.map Segment.plain).flatMap f = cs := by
  simp [List.flatMap_map, h.plain]

theorem dropWhile_flatMap (h : Legible f ps) :
    (ps.flatMap f).dropWhile Text.isBlank = (ps.dropWhile Segment.isBlank).flatMap f := by
  induction ps with
  | nil => rfl
  | cons p ps ih =>
    cases p with
    | plain c => by_cases hb : Text.isBlank c <;> simp [h.plain, Segment.isBlank, hb, ih h.tail]
    | literal b =>
      obtain ⟨c, cs, hcs, hc⟩ := h.starts List.mem_cons_self
      simp [hcs, Segment.isBlank, hc]

theorem head?_flatMap (h : Legible f ps) :
    (ps.flatMap f).head?.all Text.isBlank = ps.head?.all Segment.isBlank := by
  cases ps with
  | nil => rfl
  | cons p ps =>
    cases p with
    | plain c => simp [h.plain, Segment.isBlank]
    | literal b =>
      obtain ⟨c, cs, hcs, hc⟩ := h.starts List.mem_cons_self
      simp [hcs, Segment.isBlank, hc]

theorem isBlankText_eq (h : Legible f ps) :
    Text.isBlankText (String.ofList (ps.flatMap f)) = ps.all Segment.isBlank := by
  rw [Text.isBlankText, String.toList_ofList]
  induction ps with
  | nil => rfl
  | cons p ps ih =>
    rw [List.flatMap_cons, List.all_append, List.all_cons, ih h.tail]
    cases p with
    | plain c => simp [h.plain, Segment.isBlank]
    | literal b =>
      obtain ⟨c, cs, hcs, hc⟩ := h.starts List.mem_cons_self
      simp [hcs, Segment.isBlank, hc]

theorem isEmpty_eq (h : Legible f ps) :
    (String.ofList (ps.flatMap f)).isEmpty = ps.isEmpty := by
  rw [Bool.eq_iff_iff, String.isEmpty_iff, ← String.toList_eq_nil_iff, String.toList_ofList,
    List.isEmpty_iff]
  cases ps with
  | nil => simp
  | cons p ps =>
    cases p with
    | plain c => simp [h.plain]
    | literal b =>
      obtain ⟨c, cs, hcs, -⟩ := h.starts List.mem_cons_self
      simp [hcs]

/-- An operand is read off the start of the text as it is off the parts. -/
theorem isPrefixOf_flatMap {operand : Operand} {w : List Char}
    (hw : w <:+ operand.keyword.toList) (h : Legible f ps) :
    w.isPrefixOf (ps.flatMap f) = (w.map Segment.plain).isPrefixOf ps := by
  induction w generalizing ps with
  | nil => simp
  | cons c w ih =>
    cases ps with
    | nil => rfl
    | cons p ps =>
      cases p with
      | plain d =>
        have hd : (Segment.plain c == Segment.plain d) = (c == d) := by
          rw [Bool.eq_iff_iff]
          simp
        simp [h.plain, List.isPrefixOf, hd, ih ((List.suffix_cons c w).trans hw) h.tail]
      | literal b =>
        have hl : (Segment.plain c == Segment.literal b) = false := by simp
        have hb := h.aloof List.mem_cons_self operand (c :: w) hw (List.cons_ne_nil c w)
        have hno : ¬ (c :: w) <+: f (.literal b) ++ ps.flatMap f := fun hpre =>
          (List.prefix_or_prefix_of_prefix hpre (List.prefix_append _ _)).elim hb.1 hb.2
        rw [List.flatMap_cons, List.map_cons, List.isPrefixOf, hl, Bool.false_and,
          ← Bool.not_eq_true, List.isPrefixOf_iff_prefix]
        exact hno

theorem afterOperand?_flatMap (operand : Operand) (h : Legible f ps) :
    afterOperand? operand (ps.flatMap f) =
      (afterOperandParts? operand ps).map (List.flatMap f) := by
  simp only [afterOperand?, afterOperandParts?, List.length_map,
    isPrefixOf_flatMap (List.suffix_refl _) h]
  cases hp : (operand.keyword.toList.map Segment.plain).isPrefixOf ps with
  | false => simp
  | true =>
    obtain ⟨rest, rfl⟩ := List.isPrefixOf_iff_prefix.mp hp
    have hdrop : ((operand.keyword.toList.map Segment.plain ++ rest).flatMap f).drop
        operand.keyword.toList.length = rest.flatMap f := by
      rw [List.flatMap_append, h.flatMap_plain, List.drop_left]
    have hdrop' : (operand.keyword.toList.map Segment.plain ++ rest).drop
        operand.keyword.toList.length = rest := by
      rw [← List.length_map Segment.plain, List.drop_left]
    rw [hdrop, hdrop', (h.mono (List.subset_append_right _ _)).head?_flatMap]
    cases rest.head?.all Segment.isBlank <;> simp

/-- An operand is taken off the text as it is off the parts. -/
theorem withoutLeadingOperand_eq (h : Legible f ps) :
    withoutLeadingOperand (String.ofList (ps.flatMap f)) =
      String.ofList ((withoutLeadingOperandParts ps).flatMap f) := by
  have htrim : ∀ {ps : List Segment}, Legible f ps →
      Text.trimStart (ps.flatMap f) = (ps.dropWhile Segment.isBlank).flatMap f := dropWhile_flatMap
  have hstart : Legible f (ps.dropWhile Segment.isBlank) :=
    h.mono (List.dropWhile_sublist _).subset
  have hrest : ∀ {operand : Operand} {rest : List Segment},
      afterOperandParts? operand (ps.dropWhile Segment.isBlank) = some rest → Legible f rest := by
    intro operand rest hr
    refine hstart.mono ?_
    rw [afterOperandParts?_suffix hr]
    exact List.subset_append_right _ _
  simp only [withoutLeadingOperand, String.toList_ofList, htrim h, hstart.afterOperand?_flatMap,
    withoutLeadingOperandParts]
  cases hand : afterOperandParts? .and (ps.dropWhile Segment.isBlank) with
  | some rest => simp [htrim (hrest hand)]
  | none =>
    cases hor : afterOperandParts? .or (ps.dropWhile Segment.isBlank) with
    | some rest => simp [htrim (hrest hor)]
    | none => simp

end Legible

/-! ## Marked texts -/

/-- A marker is no blank and in no operand. -/
theorem legible_marked (ps : List Segment) : Legible Segment.marked ps where
  plain _ := rfl
  starts _ := ⟨'\x02', _, rfl, by decide⟩
  aloof _ := aloof_cons (c := '\x02') (by decide) _

namespace Marked

variable {s : String} {parts : List Segment}

theorem isEmpty_eq (h : Marked s parts) : s.isEmpty = parts.isEmpty := by
  rw [h.eq_ofList, (legible_marked parts).isEmpty_eq]

theorem isBlankText_eq (h : Marked s parts) :
    Text.isBlankText s = parts.all Segment.isBlank := by
  rw [h.eq_ofList, (legible_marked parts).isBlankText_eq]

/-- What is left of a well-marked text is a well-marked text. -/
theorem withoutLeadingOperand (h : Marked s parts) :
    Marked (withoutLeadingOperand s) (withoutLeadingOperandParts parts) where
  toList_eq := by
    rw [h.eq_ofList, (legible_marked parts).withoutLeadingOperand_eq, String.toList_ofList]
  unreserved := by
    obtain ⟨pre, hpre, -⟩ := withoutLeadingOperandParts_suffix parts
    intro p hp
    refine h.unreserved p ?_
    rw [hpre]
    exact List.mem_append_right _ hp

end Marked

end Sql

end QuerySql
