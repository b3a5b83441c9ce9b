import Mathlib.Data.List.Chain
import QuerySql.Proofs.Assembly
import QuerySql.Proofs.Operands
import QuerySql.Proofs.Respacing

/-!
# Literals stand apart

A marked literal has a space, comma or parenthesis on either side, if it has a neighbour at all.
What stands next to a placeholder is therefore known, whatever the names in a statement are.

* `Delimited parts`: a neighbour of a literal is a delimiter.
* `Delimited.joined`: joining with a separator keeps this.
* `Delimited.respaceParts`: respacing keeps this.
-/

namespace QuerySql.Sql

/-- If one of the two neighbours is a literal, then the other is a delimiter. -/
def Segment.apart : Segment → Segment → Bool
  | .plain _, .plain _ => true
  | .plain c, .literal _ | .literal _, .plain c => isDelimiter c
  | .literal _, .literal _ => false

/-- Every neighbour of a literal is a delimiter. -/
def Delimited (parts : List Segment) : Prop := parts.IsChain fun p q => p.apart q

theorem Segment.apart_literal (p : Segment) (b b' : List Char) :
    p.apart (.literal b) = p.apart (.literal b') := by
  cases p <;> rfl

theorem Segment.literal_apart (p : Segment) (b b' : List Char) :
    (Segment.literal b).apart p = (Segment.literal b').apart p := by
  cases p <;> rfl

theorem Segment.delimiter_apart {c : Char} (hc : isDelimiter c = true) (p : Segment) :
    (Segment.plain c).apart p = true ∧ p.apart (.plain c) = true := by
  cases p <;> simp [Segment.apart, hc]

namespace Delimited

variable {ps qs : List Segment}

theorem plain (cs : List Char) : Delimited (cs.map .plain) := by
  refine List.isChain_map_of_isChain (S := fun p q => p.apart q) (R := fun _ _ => True)
    Segment.plain (fun _ _ _ => rfl) ?_
  induction cs with
  | nil => exact .nil
  | cons c cs ih => exact ih.cons fun _ _ => trivial

theorem tail {p : Segment} (h : Delimited (p :: ps)) : Delimited ps := List.IsChain.tail h

theorem right_of_append (h : Delimited (ps ++ qs)) : Delimited qs := List.IsChain.right_of_append h

/-- Only whether the first part is a literal counts for what follows it. -/
theorem congr_literal {b : List Char} (b' : List Char) (h : Delimited (.literal b :: ps)) :
    Delimited (.literal b' :: ps) :=
  List.IsChain.imp_head (fun {z} hz => by rwa [Segment.literal_apart z b' b]) h

theorem cons {p q : Segment} (hpq : p.apart q = true) (h : Delimited (q :: ps)) :
    Delimited (p :: q :: ps) :=
  List.IsChain.cons_cons hpq h

theorem head {p q : Segment} (h : Delimited (p :: q :: ps)) : p.apart q = true :=
  List.IsChain.rel_head? h rfl

/-- Joining with a separator keeps literals apart. -/
theorem joined {sep : String} (hsep : isSeparator sep = true) (h : Delimited ps)
    (h' : Delimited qs) : Delimited (ps ++ sep.toList.map .plain ++ qs) := by
  simp only [isSeparator, Bool.and_eq_true, Option.any_eq_true] at hsep
  obtain ⟨⟨-, first, hfirst, hf⟩, last, hlast, hl⟩ := hsep
  have hsepq : Delimited (sep.toList.map .plain ++ qs) := by
    refine List.IsChain.append (plain _) h' fun p hp q _ => ?_
    rw [List.getLast?_map, hlast] at hp
    cases hp
    exact (Segment.delimiter_apart hl q).1
  rw [List.append_assoc]
  refine List.IsChain.append h hsepq fun p _ q hq => ?_
  rw [List.head?_append, List.head?_map, hfirst] at hq
  cases hq
  exact (Segment.delimiter_apart hf p).2

/-! ## Respacing -/

/-- Respacing after `e` was written. If a space is due, then it parts `e` from what follows. -/
theorem respaceParts_started (h : Delimited ps) (m : Mode) (e : Segment)
    (hm : ∀ g, m ≠ .free g false) (he : m ≠ .free true true → Delimited (e :: ps)) :
    Delimited (e :: respaceParts m ps) := by
  have hspace := fun p => Segment.delimiter_apart (c := ' ') rfl p
  induction ps generalizing m e with
  | nil => exact List.IsChain.singleton e
  | cons p ps ih =>
    have hfree : ∀ p', Delimited (p' :: ps) →
        Delimited (p' :: respaceParts (.free false true) ps) :=
      fun p' hp' => ih h.tail _ p' (by simp) fun _ => hp'
    have hquoted : ∀ p', Delimited (p' :: ps) → Delimited (p' :: respaceParts .quoted ps) :=
      fun p' hp' => ih h.tail _ p' (by simp) fun _ => hp'
    match m, p with
    | .quoted, .plain c =>
      have hc := (he (by simp)).head
      simp only [respaceParts, Mode.step, List.map_cons, List.map_nil, List.singleton_append]
      split
      · exact cons hc (hfree _ h)
      · exact cons hc (hquoted _ h)
    | .quoted, .literal b =>
      have hc : ∀ b', e.apart (.literal b') = true := by
        intro b'
        rw [Segment.apart_literal e b' b]
        exact (he (by simp)).head
      simp only [respaceParts]
      cases (Mode.quoted.run (ps.any fun p => hasQuote p.written) b).2 with
      | quoted => exact cons (hc _) (hquoted _ (h.congr_literal _))
      | free gap started => exact cons (hc _) (hfree _ (h.congr_literal _))
    | .free gap true, .plain c =>
      simp only [respaceParts, Mode.step]
      by_cases hb : Text.isBlank c
      · simpa [hb] using ih h.tail (.free true true) e (by simp) (by simp)
      · have hrest : Delimited (.plain c :: respaceParts
            (if c = '\x27' && ps.any fun p => hasQuote p.written then .quoted
              else .free false true) ps) := by
          split
          · exact hquoted _ h
          · exact hfree _ h
        cases gap with
        | true => simpa [hb] using cons (hspace e).2 (cons (hspace _).1 hrest)
        | false => simpa [hb] using cons (he (by simp)).head hrest
    | .free gap true, .literal b =>
      cases gap with
      | true => exact cons (hspace e).2 (cons (hspace _).1 (hfree _ h))
      | false => exact cons (he (by simp)).head (hfree _ h)
    | .free gap false, _ => exact absurd rfl (hm gap)

/-- Respacing keeps literals apart. -/
theorem respaceParts (h : Delimited ps) (gap : Bool) :
    Delimited (respaceParts (.free gap false) ps) := by
  induction ps generalizing gap with
  | nil => exact List.IsChain.nil
  | cons p ps ih =>
    match p with
    | .literal b =>
      simpa [Sql.respaceParts, Mode.due] using h.tail.respaceParts_started _ _ (by simp) fun _ => h
    | .plain c =>
      simp only [Sql.respaceParts, Mode.step]
      by_cases hb : Text.isBlank c
      · simpa [hb] using ih h.tail true
      · simp only [hb, Bool.false_eq_true, if_false, Bool.and_false]
        split
        · exact h.tail.respaceParts_started _ _ (by simp) fun _ => h
        · exact h.tail.respaceParts_started _ _ (by simp) fun _ => h

/-- Taking the operand off keeps literals apart. -/
theorem withoutLeadingOperandParts (h : Delimited ps) :
    Delimited (Compile.withoutLeadingOperandParts ps) := by
  obtain ⟨pre, hpre, -⟩ := Compile.withoutLeadingOperandParts_suffix ps
  rw [hpre] at h
  exact h.right_of_append

end Delimited

end QuerySql.Sql
