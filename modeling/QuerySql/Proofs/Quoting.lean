import QuerySql.Proofs.Operands
import QuerySql.Proofs.Respacing

/-!
# Quotes in pairs

Respacing copies what stands between an apostrophe and the next one. Where the apostrophes of the
plain parts come in pairs, and no marked literal stands within such a pair, the scan meets every
marked literal outside of quotes and copies it.

* `Paired`: apostrophes come in pairs, with no literal within a pair.
* `Paired.respaceParts`: respacing keeps the pairs and leaves the literals as they are.
-/

namespace QuerySql.Sql

/-- Apostrophes come in pairs, with no literal within a pair; `isOpen` says that one stands before
the parts and lacks its partner. -/
def Paired : Bool → List Segment → Prop
  | isOpen, [] => isOpen = false
  | isOpen, .plain c :: ps => Paired (isOpen != (c == '\x27')) ps
  | isOpen, .literal _ :: ps => isOpen = false ∧ Paired false ps

namespace Paired

theorem append {isOpen : Bool} {ps qs : List Segment} (hp : Paired isOpen ps)
    (hq : Paired false qs) : Paired isOpen (ps ++ qs) := by
  induction ps generalizing isOpen with
  | nil =>
    cases hp
    exact hq
  | cons p ps ih =>
    cases p with
    | plain c => exact ih hp
    | literal b => exact ⟨hp.1, ih hp.2⟩

/-- Characters that are no apostrophes do not matter. -/
theorem plain_append_iff {isOpen : Bool} {cs : List Char} (h : '\x27' ∉ cs) (ps : List Segment) :
    Paired isOpen (cs.map .plain ++ ps) ↔ Paired isOpen ps := by
  induction cs with
  | nil => rfl
  | cons c cs ih =>
    simp only [List.mem_cons, not_or] at h
    have hc : (c == '\x27') = false := by simpa using Ne.symm h.1
    rw [List.map_cons, List.cons_append, Paired, hc, Bool.bne_false]
    exact ih h.2

/-- A text without literals is paired if its apostrophes are even in number. -/
theorem of_even {cs : List Char} (h : cs.count '\x27' % 2 = 0) : Paired false (cs.map .plain) := by
  have hgeneral : ∀ (cs : List Char) (isOpen : Bool), cs.count '\x27' % 2 = isOpen.toNat →
      Paired isOpen (cs.map .plain) := by
    intro cs
    induction cs with
    | nil =>
      intro isOpen hc
      cases isOpen with
      | false => rfl
      | true => cases hc
    | cons c cs ih =>
      intro isOpen hc
      rw [List.map_cons, Paired]
      apply ih
      rw [List.count_cons] at hc
      by_cases hq : c = '\x27'
      · cases isOpen <;> simp [hq] at hc ⊢ <;> omega
      · have hbeq : (c == '\x27') = false := by simpa using hq
        simpa [hbeq] using hc
  exact hgeneral cs false h

/-- After an apostrophe that lacks its partner there is another one. -/
theorem any_hasQuote {ps : List Segment} (h : Paired true ps) :
    (ps.any fun p => hasQuote p.written) = true := by
  induction ps with
  | nil => cases h
  | cons p ps ih =>
    cases p with
    | literal b => cases h.1
    | plain c =>
      by_cases hc : c = '\x27'
      · simp [hc, Segment.written, hasQuote]
      · have hbeq : (c == '\x27') = false := by simpa using hc
        rw [Paired, hbeq, Bool.bne_false] at h
        rw [List.any_cons, ih h, Bool.or_true]

end Paired

/-- The scan is within a quoted literal. -/
def Mode.isQuoted : Mode → Bool
  | .free _ _ => false
  | .quoted => true

/-- Where apostrophes come in pairs, the scan is within quotes after every other of them. -/
theorem Mode.isQuoted_step (m : Mode) {ahead : Bool} {c : Char}
    (h : (m.isQuoted != (c == '\x27')) = true → ahead = true) :
    (m.step ahead c).2.isQuoted = (m.isQuoted != (c == '\x27')) := by
  by_cases hc : c = '\x27'
  · subst hc
    cases m with
    | quoted => rfl
    | free gap started =>
      have hahead := h rfl
      subst hahead
      have hblank : Text.isBlank '\x27' = false := by decide
      simp [Mode.step, Mode.isQuoted, hblank]
  · have hbeq : (c == '\x27') = false := by simpa using hc
    cases m with
    | quoted => simp [Mode.step, Mode.isQuoted, hc]
    | free gap started => by_cases hb : Text.isBlank c <;> simp [Mode.step, Mode.isQuoted, hb, hc]

/-- Only at an apostrophe outside of quotes does it count whether another one follows. -/
theorem Mode.step_congr (m : Mode) {ahead : Bool} {c : Char}
    (h : (m.isQuoted != (c == '\x27')) = true → ahead = true) : m.step ahead c = m.step true c := by
  cases m with
  | quoted => rfl
  | free gap started =>
    by_cases hc : c = '\x27'
    · rw [h (by simp [Mode.isQuoted, hc])]
    · simp [Mode.step, hc]

/-- A step writes nothing for a blank, and otherwise the character, perhaps after a blank. -/
theorem Mode.step_written (m : Mode) (ahead : Bool) (c : Char) :
    ((m.step ahead c).1 = [] ∧ Text.isBlank c = true) ∨
      (m.step ahead c).1 = [c] ∨ (m.step ahead c).1 = [' ', c] := by
  cases m with
  | quoted => exact .inr (.inl rfl)
  | free gap started =>
    by_cases hb : Text.isBlank c
    · exact .inl ⟨by simp [Mode.step, hb], hb⟩
    · cases gap <;> cases started <;> simp [Mode.step, hb]

theorem Mode.due_written (m : Mode) : m.due = [] ∨ m.due = [' '] := by
  cases m with
  | quoted => exact .inl rfl
  | free gap started => cases gap <;> cases started <;> simp [Mode.due]

@[simp] theorem filterMap_bindValue?_plain (cs : List Char) :
    (cs.map Segment.plain).filterMap Segment.bindValue? = [] := by
  simp [List.filterMap_map, Segment.bindValue?, Function.comp_def]

/-- Respacing keeps the pairs and leaves the literals as they are. -/
theorem Paired.respaceParts {m : Mode} {ps : List Segment} (h : Paired m.isQuoted ps) :
    Paired m.isQuoted (respaceParts m ps) ∧
      (respaceParts m ps).filterMap Segment.bindValue? = ps.filterMap Segment.bindValue? := by
  induction ps generalizing m with
  | nil => exact ⟨h, rfl⟩
  | cons p ps ih =>
    cases p with
    | plain c =>
      have hstep := m.isQuoted_step (fun hopen => Paired.any_hasQuote (by rwa [Paired, hopen] at h))
      obtain ⟨hpaired, hvalues⟩ := @ih (m.step _ c).2 (by rwa [hstep])
      rw [hstep] at hpaired
      simp only [Sql.respaceParts, List.filterMap_append, filterMap_bindValue?_plain, hvalues]
      refine ⟨?_, rfl⟩
      rcases m.step_written (ps.any fun p => hasQuote p.written) c with
        ⟨hw, hblank⟩ | hw | hw
      · have hbeq : (c == '\x27') = false := by
          rw [beq_eq_false_iff_ne]
          rintro rfl
          exact absurd hblank (by decide)
        rw [hbeq, Bool.bne_false] at hpaired
        simpa [hw] using hpaired
      · simpa [hw, Paired] using hpaired
      · simpa [hw, Paired] using hpaired
    | literal b =>
      cases m with
      | quoted => cases h.1
      | free gap started =>
        obtain ⟨hpaired, hvalues⟩ := @ih (.free false true) h.2
        simp only [Sql.respaceParts, List.filterMap_append, filterMap_bindValue?_plain,
          List.filterMap_cons, hvalues]
        refine ⟨?_, rfl⟩
        rcases (Mode.free gap started).due_written with hdue | hdue
        · simpa [hdue, Paired] using ⟨rfl, hpaired⟩
        · simpa [hdue, Paired] using ⟨rfl, hpaired⟩

end QuerySql.Sql
