import QuerySql.Proofs.Assembly
import QuerySql.Proofs.Quoting

/-!
# Values carried by texts

A text whose quotes come in pairs carries the values of its marked literals, in order. Putting such
texts together puts their values one after the other: a text that is left out for being blank
carries none, and neither does an operand that is taken off.

* `Bare s`: the text `s` carries no value and can stand anywhere.
* `Carries s vs`: the text `s` has its quotes in pairs and carries the values `vs`.
* `assembly_carries`: putting texts together puts their values one after the other.
-/

namespace QuerySql

open Sql Compile

/-- The text can stand in SQL as it is: it has no reserved character, and its apostrophes are even
in number. -/
structure Bare (s : String) : Prop where
  unreserved : hasReserved s = false
  even : s.toList.count '\x27' % 2 = 0

instance (s : String) : Decidable (Bare s) :=
  decidable_of_iff (hasReserved s = false ∧ s.toList.count '\x27' % 2 = 0)
    ⟨fun h => ⟨h.1, h.2⟩, fun h => ⟨h.unreserved, h.even⟩⟩

/-- The text has its quotes in pairs, and the values of its literals are `vs`, in order. -/
def Carries (s : String) (vs : List BindValue) : Prop :=
  ∃ parts, Marked s parts ∧ Paired false parts ∧ parts.filterMap Segment.bindValue? = vs

namespace Bare

variable {s t : String}

theorem append (hs : Bare s) (ht : Bare t) : Bare (s ++ t) where
  unreserved := by rw [hasReserved_append, hs.unreserved, ht.unreserved]; rfl
  even := by
    have heven := hs.even
    have heven' := ht.even
    rw [String.toList_append, List.count_append]
    omega

theorem uppercase (h : Bare s) : Bare (Text.uppercase s) where
  unreserved := hasReserved_uppercase h.unreserved
  even := by rw [Text.count_uppercase (by decide), h.even]

theorem quoteLiteral (h : hasReserved s = false) : Bare (quoteLiteral s) where
  unreserved := hasReserved_quoteLiteral h
  even := by
    have hdouble : ∀ cs : List Char,
        (Text.double '\x27' cs).count '\x27' = 2 * cs.count '\x27' := by
      intro cs
      induction cs with
      | nil => rfl
      | cons c cs ih =>
        rw [Text.double, List.flatMap_cons, List.count_append, List.count_cons]
        rw [Text.double] at ih
        by_cases hc : c = '\x27'
        · simp only [hc, if_true, ih, beq_self_eq_true]
          simp
          omega
        · simp [hc, ih]
    simp only [Sql.quoteLiteral, String.toList_ofList, List.cons_append, List.count_cons,
      List.count_append, hdouble]
    simp
    omega

theorem of_isPhrase (h : isPhrase s = true) : Bare s where
  unreserved := (unreserved_of_isPhrase h).1
  even := by rw [List.count_eq_zero.mpr (unreserved_of_isPhrase h).2]

theorem carries (h : Bare s) : Carries s [] :=
  ⟨_, .bare h.unreserved, .of_even h.even, filterMap_bindValue?_plain _⟩

end Bare

/-! ## Putting texts together -/

namespace Carries

variable {s t : String} {vs ws : List BindValue}

theorem mark (h : hasReserved s = false) : Carries (mark s) [.ofLexical s] := by
  refine ⟨_, .mark h, ⟨rfl, rfl⟩, ?_⟩
  simp [Segment.bindValue?]

theorem append (hs : Carries s vs) (ht : Carries t ws) : Carries (s ++ t) (vs ++ ws) := by
  obtain ⟨ps, hps, hpaired, rfl⟩ := hs
  obtain ⟨qs, hqs, hqpaired, rfl⟩ := ht
  exact ⟨ps ++ qs, hps.append hqs, hpaired.append hqpaired, List.filterMap_append⟩

/-- A text between two others. -/
theorem between (hs : Carries s vs) (sep : String) (hsep : Bare sep) (ht : Carries t ws) :
    Carries (s ++ sep ++ t) (vs ++ ws) := by
  have h := (hs.append hsep.carries).append ht
  rwa [List.append_nil] at h

/-- A blank text carries nothing. -/
theorem eq_nil_of_isBlankText (h : Carries s vs) (hb : Text.isBlankText s = true) : vs = [] := by
  obtain ⟨ps, hps, -, rfl⟩ := h
  rw [hps.isBlankText_eq, List.all_eq_true] at hb
  rw [List.filterMap_eq_nil_iff]
  intro p hp
  cases p with
  | plain c => rfl
  | literal b => exact absurd (hb _ hp) (by simp [Segment.isBlank])

/-- What is taken off the first condition carries nothing. -/
theorem withoutLeadingOperand (h : Carries s vs) : Carries (withoutLeadingOperand s) vs := by
  obtain ⟨ps, hps, hpaired, rfl⟩ := h
  obtain ⟨pre, hpre, hleading⟩ := withoutLeadingOperandParts_suffix ps
  have hquote : '\x27' ∉ pre := notMem_of_isLeading hleading (by decide)
  have hvalues : ps.filterMap Segment.bindValue? =
      (withoutLeadingOperandParts ps).filterMap Segment.bindValue? := by
    conv => lhs; rw [hpre]
    rw [List.filterMap_append, filterMap_bindValue?_plain, List.nil_append]
  refine ⟨_, hps.withoutLeadingOperand, ?_, hvalues.symm⟩
  rwa [hpre, Paired.plain_append_iff hquote] at hpaired

theorem normalizeSpacing (h : Carries s vs) : Carries (normalizeSpacing s) vs := by
  obtain ⟨ps, hps, hpaired, rfl⟩ := h
  have hspaced := @Paired.respaceParts (.free false false) ps hpaired
  exact ⟨_, hps.normalizeSpacing, hspaced.1, hspaced.2⟩

end Carries

/-- Putting texts together puts their values one after the other. Values belong to one text, which
stands on both sides of the relation. -/
theorem assembly_carries : Assembly id Bare (fun s t vs => t = s ∧ Carries s vs) where
  phrase := .of_isPhrase
  append := .append
  uppercase := .uppercase
  bare h := ⟨rfl, h.carries⟩
  joined := by
    rintro sep a _ c _ vs ws hsep ⟨rfl, hab⟩ ⟨rfl, hcd⟩
    exact ⟨rfl, hab.between sep (.of_isPhrase (Bool.and_eq_true_iff.mp hsep).2) hcd⟩
  enclosed := by
    rintro name a _ vs hname ⟨rfl, hab⟩
    have hclosed := hab.append (Bare.carries (s := ")") (by decide))
    have hboth := hname.carries.between "(" (by decide) hclosed
    refine ⟨rfl, ?_⟩
    simpa [parenthesized, String.append_assoc] using hboth
  isBlankText_eq h := by rw [h.1]
  isEmpty_eq h := by rw [h.1]
  eq_nil h := h.2.eq_nil_of_isBlankText
  withoutLeadingOperand := by
    rintro a _ vs ⟨rfl, h⟩
    exact ⟨rfl, h.withoutLeadingOperand⟩
  normalizeSpacing := by
    rintro a _ vs ⟨rfl, h⟩
    exact ⟨rfl, h.normalizeSpacing⟩

end QuerySql
