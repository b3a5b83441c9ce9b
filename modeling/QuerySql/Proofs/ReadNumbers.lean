import QuerySql.Proofs.Decimals

/-!
# Numbers that are read

A number of a document is an integer of a 64-bit word or a finite binary number. The binary number
comes from at most 64 bits and a power of ten by a few rounded steps. A step of division makes the
exponent greater by one at most, so none of them leaves the range.

* `Binary64.exists_ofRatio`: rounding gives a number of the format, or is out of range.
* `NumberText.representable_of_value?`: every number that is read is `Number.Representable`.
-/

namespace QuerySql

namespace Binary64

/-! ## Rounding stays in the format -/

theorem roundQuotient_le {n d k : Nat} (hd : 0 < d) (h : n ≤ k * d) : roundQuotient n d ≤ k := by
  have hn := Nat.div_add_mod n d
  have hq : n / d ≤ k := Nat.div_le_of_le_mul (by rwa [Nat.mul_comm])
  unfold roundQuotient
  simp only
  rcases Nat.lt_or_ge (n / d) k with hlt | hge
  · split
    · omega
    · split <;> omega
  · have hk : n / d = k := by omega
    have hr : n % d = 0 := by
      rw [hk, Nat.mul_comm] at hn
      omega
    rw [if_pos (by omega), hk]

theorem le_roundQuotient {n d k : Nat} (hd : 0 < d) (h : k * d ≤ n) : k ≤ roundQuotient n d := by
  have hq : k ≤ n / d := (Nat.le_div_iff_mul_le hd).mpr h
  unfold roundQuotient
  simp only
  split
  · exact hq
  · split <;> omega

/-- Rounding gives a number of the format, unless its exponent is beyond the greatest. -/
theorem exists_ofRatio (negative : Bool) {num den : Nat} (hnum : 0 < num) (hden : 0 < den) :
    ∃ m e, m < 2 * minMantissa ∧ minExponent ≤ e ∧ (minMantissa ≤ m ∨ e = minExponent) ∧
      e ≤ max (floorLog2 num den - 52) minExponent + 1 ∧
      ofRatio negative num den =
        if maxExponent < e then .infinite negative else .finite negative m e := by
  obtain ⟨hlower, hupper⟩ := floorLog2_spec hnum hden
  obtain ⟨e, he⟩ : ∃ e, max (floorLog2 num den - 52) minExponent = e := ⟨_, rfl⟩
  obtain ⟨n, hn⟩ : ∃ n, (scaleRatio num den (-e)).1 = n := ⟨_, rfl⟩
  obtain ⟨d, hd⟩ : ∃ d, (scaleRatio num den (-e)).2 = d := ⟨_, rfl⟩
  have hdpos : 0 < d := hd ▸ scaleRatio_pos _ hden
  have hdpos' : (0 : ℚ) < d := by exact_mod_cast hdpos
  have hratio : (n : ℚ) / d = (num : ℚ) / den * 2 ^ (-e) := by rw [← hn, ← hd, scaleRatio_div]
  have hpow : (0 : ℚ) < 2 ^ (-e) := by positivity
  have hle : roundQuotient n d ≤ 2 * minMantissa := by
    refine roundQuotient_le hdpos ?_
    have hlt : (n : ℚ) / d < 2 ^ (53 : Int) := by
      rw [hratio]
      calc (num : ℚ) / den * 2 ^ (-e) < 2 ^ (floorLog2 num den + 1) * 2 ^ (-e) := by gcongr
        _ = 2 ^ (floorLog2 num den + 1 + -e) := (zpow_add₀ two_ne_zero _ _).symm
        _ ≤ 2 ^ (53 : Int) := zpow_le_zpow_right₀ one_le_two (by omega)
    rw [div_lt_iff₀ hdpos'] at hlt
    have hnat : n < 2 ^ 53 * d := by exact_mod_cast hlt
    exact hnat.le
  have hnormal : minMantissa ≤ roundQuotient n d ∨ e = minExponent := by
    by_cases hmin : e = minExponent
    · exact .inr hmin
    · left
      refine le_roundQuotient hdpos ?_
      have hge : (2 : ℚ) ^ (52 : Int) ≤ (n : ℚ) / d := by
        rw [hratio]
        calc (2 : ℚ) ^ (52 : Int) = 2 ^ (floorLog2 num den + -e) := by
              congr 1
              omega
          _ = 2 ^ floorLog2 num den * 2 ^ (-e) := zpow_add₀ two_ne_zero _ _
          _ ≤ (num : ℚ) / den * 2 ^ (-e) := by gcongr
      rw [le_div_iff₀ hdpos'] at hge
      have hnat : 2 ^ 52 * d ≤ n := by exact_mod_cast hge
      exact hnat
  rw [ofRatio_of_pos negative hnum]
  simp only [he, hn, hd]
  by_cases hcarry : roundQuotient n d = 2 * minMantissa
  · refine ⟨minMantissa, e + 1, by decide, by omega, .inl le_rfl, by omega, ?_⟩
    simp only [if_pos hcarry]
  · refine ⟨roundQuotient n d, e, by omega, by omega, hnormal, by omega, ?_⟩
    simp only [if_neg hcarry]

/-- A number of the format whose exponent is at most `top`. -/
def Within (top : Int) : Binary64 → Prop
  | .finite _ m e => Canonical m e ∧ e ≤ top
  | .infinite _ => False

theorem within_zero (negative : Bool) {top : Int} (h : minExponent ≤ top) :
    Within top (.finite negative 0 minExponent) :=
  ⟨⟨by decide, le_rfl, by decide, .inr rfl⟩, h⟩

/-- A ratio below a power of two of the range is rounded to a finite number. -/
theorem within_ofRatio (negative : Bool) {num den : Nat} {top : Int} (hden : 0 < den)
    (h : (num : ℚ) / den < 2 ^ (top + 53)) (hmin : minExponent ≤ top) (hmax : top < maxExponent) :
    Within (top + 1) (ofRatio negative num den) := by
  rcases Nat.eq_zero_or_pos num with rfl | hnum
  · exact within_zero negative (by omega)
  · obtain ⟨m, e, hm, he, hnormal, htop, heq⟩ := exists_ofRatio negative hnum hden
    have hlog := floorLog2_lt hnum hden h
    rw [heq, if_neg (by omega)]
    exact ⟨⟨hm, he, by omega, hnormal⟩, by omega⟩

theorem within_ofNat {n : Nat} (h : n ≤ Word64.max) : Within 12 (ofNat n) := by
  have hlt : ((n : ℚ) / (1 : Nat)) < 2 ^ (11 + 53 : Int) := by
    have hnat : n < 2 ^ 64 := by
      simp only [Word64.max, Word64.count] at h
      omega
    have hcast : (n : ℚ) < 2 ^ 64 := by exact_mod_cast hnat
    simpa using hcast
  exact within_ofRatio false (by decide) hlt (by decide) (by decide)

/-- The number is finite and at least one. -/
def isAtLeastOne : Binary64 → Bool
  | .finite _ m e => (scaleRatio m 1 e).2 ≤ (scaleRatio m 1 e).1
  | .infinite _ => false

theorem isAtLeastOne_powerOfTen :
    ∀ k < NumberText.maxPower + 1, (powerOfTen k).isAtLeastOne = true := by decide +kernel

theorem one_le_of_isAtLeastOne {negative : Bool} {m : Nat} {e : Int}
    (h : isAtLeastOne (.finite negative m e) = true) : (1 : ℚ) ≤ m * 2 ^ e := by
  have hpos : (0 : ℚ) < (scaleRatio m 1 e).2 := by
    exact_mod_cast scaleRatio_pos e (by norm_num)
  have hle : ((scaleRatio m 1 e).2 : ℚ) ≤ (scaleRatio m 1 e).1 := by
    simp only [isAtLeastOne, decide_eq_true_eq] at h
    exact_mod_cast h
  have hdiv := scaleRatio_div m 1 e
  rw [Nat.cast_one, div_one] at hdiv
  rw [← hdiv]
  exact (one_le_div₀ hpos).mpr hle

/-- Division by a number that is at least one makes the exponent greater by one at most. -/
theorem Within.div {top : Int} {x y : Binary64} (hx : Within top x) (hy : y.isAtLeastOne = true)
    (hmin : minExponent ≤ top) (hmax : top < maxExponent) : Within (top + 1) (x.div y) := by
  cases x with
  | infinite negative => exact hx.elim
  | finite negative m e =>
    cases y with
    | infinite negative' => cases hy
    | finite negative' m' e' =>
      obtain ⟨hc, he⟩ := hx
      have hone := one_le_of_isAtLeastOne hy
      have hm' : 0 < m' := by
        rcases Nat.eq_zero_or_pos m' with rfl | hm'
        · norm_num at hone
        · exact hm'
      have hm : (m : ℚ) < 2 ^ 53 := by exact_mod_cast hc.lt
      have hden : 0 < (scaleRatio m m' (e - e')).2 := scaleRatio_pos _ hm'
      refine @within_ofRatio _ (scaleRatio m m' (e - e')).1 _ top hden ?_ hmin hmax
      calc ((scaleRatio m m' (e - e')).1 : ℚ) / (scaleRatio m m' (e - e')).2
          = (m : ℚ) / m' * 2 ^ (e - e') := scaleRatio_div m m' (e - e')
        _ = m * 2 ^ e / (m' * 2 ^ e') := by
          rw [zpow_sub₀ two_ne_zero]
          field_simp
        _ ≤ m * 2 ^ e := div_le_self (by positivity) hone
        _ < 2 ^ 53 * 2 ^ e := by gcongr
        _ = 2 ^ (e + 53) := by
          rw [zpow_add₀ two_ne_zero, mul_comm]
          norm_num
        _ ≤ 2 ^ (top + 53) := zpow_le_zpow_right₀ one_le_two (by omega)

/-- A product is a number of the format if it is finite. -/
theorem within_mul {x y : Binary64} (h : (x.mul y).isInfinite = false) :
    Within maxExponent (x.mul y) := by
  cases x with
  | infinite negative => cases y <;> cases h
  | finite negative m e =>
    cases y with
    | infinite negative' => cases h
    | finite negative' m' e' =>
      have hden : 0 < (scaleRatio (m * m') 1 (e + e')).2 := scaleRatio_pos _ (by decide)
      simp only [mul] at h ⊢
      rcases Nat.eq_zero_or_pos (scaleRatio (m * m') 1 (e + e')).1 with hzero | hnum
      · rw [hzero]
        exact within_zero _ (by decide)
      · obtain ⟨m, e, hm, he, hnormal, -, heq⟩ := exists_ofRatio (negative != negative') hnum hden
        rw [heq] at h ⊢
        split at h
        · cases h
        · next hmax =>
          rw [if_neg hmax]
          exact ⟨⟨hm, he, by omega, hnormal⟩, by omega⟩

theorem Within.mono {top top' : Int} {x : Binary64} (h : Within top x) (hle : top ≤ top') :
    Within top' x := by
  cases x with
  | infinite negative => exact h
  | finite negative m e => exact ⟨h.1, h.2.trans hle⟩

theorem Within.withSign {top : Int} {x : Binary64} (h : Within top x) (negative : Bool) :
    Within top (x.withSign negative) := by
  cases x with
  | infinite negative' => exact h
  | finite negative' m e => exact h

end Binary64

namespace NumberText

open Binary64

/-! ## Significand and power -/

theorem takeWhole_le {significand : Nat} (ds : List Char) (h : significand ≤ Word64.max) :
    (takeWhole significand ds).1 ≤ Word64.max := by
  induction ds generalizing significand with
  | nil => exact h
  | cons d ds ih =>
    rw [takeWhole]
    split
    · exact h
    · exact ih (by omega)

theorem takeFraction_le {significand : Nat} (ds : List Char) (h : significand ≤ Word64.max) :
    (takeFraction significand ds).1 ≤ Word64.max := by
  induction ds generalizing significand with
  | nil => exact h
  | cons d ds ih =>
    rw [takeFraction]
    split
    · exact h
    · exact ih (by omega)

/-- Three steps of division by the largest power and one by the rest stay in the range. -/
theorem within_scaleDown {significand : Nat} (h : significand ≤ Word64.max) (power : Nat) :
    Within Binary64.maxExponent (scaleDown significand power) := by
  have hsteps : ∀ k : Nat, k ≤ 3 → Within (12 + k)
      (Nat.repeat (fun f => f.div (.powerOfTen maxPower)) k (.ofNat significand)) := by
    intro k hk
    induction k with
    | zero => exact within_ofNat h
    | succ k ih =>
      have hdiv := (ih (by omega)).div (isAtLeastOne_powerOfTen maxPower (by decide))
        (by simp only [minExponent]; omega) (by simp only [Binary64.maxExponent]; omega)
      rwa [Nat.cast_succ, ← add_assoc]
  obtain ⟨steps, hsteps'⟩ : ∃ steps, (power - 1) / maxPower = steps := ⟨_, rfl⟩
  have hrest : power - steps * maxPower < maxPower + 1 := by
    simp only [maxPower] at hsteps' ⊢
    omega
  have hlast := (hsteps (min steps 3) (by omega)).div (isAtLeastOne_powerOfTen _ hrest)
    (by simp only [minExponent]; omega) (by simp only [Binary64.maxExponent]; omega)
  unfold scaleDown
  simp only [hsteps']
  exact hlast.mono (by simp only [Binary64.maxExponent]; omega)

theorem within_of_scale? {significand : Nat} (h : significand ≤ Word64.max) {power : Int}
    {x : Binary64} (hx : scale? significand power = some x) : Within Binary64.maxExponent x := by
  unfold scale? at hx
  split at hx
  · cases hx
    exact within_scaleDown h _
  · split at hx
    · cases hx
      exact (within_ofNat (Nat.zero_le _)).mono (by decide)
    · split at hx
      · cases hx
      · simp only at hx
        split at hx
        · cases hx
        · next hfinite =>
          cases hx
          exact within_mul (by simpa using hfinite)

/-- A binary number that is read is one of the format. -/
theorem within_of_float? {t : NumberText} {x : Binary64} (hx : t.float? = some x) :
    Within Binary64.maxExponent x := by
  unfold NumberText.float? at hx
  simp only at hx
  obtain ⟨y, hy, rfl⟩ := Option.map_eq_some_iff.mp hx
  refine Within.withSign ?_ _
  have hsignificand := takeFraction_le (t.fraction.getD []) (takeWhole_le t.whole (Nat.zero_le _))
  split at hy
  · exact within_of_scale? hsignificand hy
  · split at hy
    · split at hy
      · cases hy
        exact (within_ofNat (Nat.zero_le _)).mono (by decide)
      · cases hy
    · exact within_of_scale? hsignificand hy

/-- Every number that is read is of a kind that is read. -/
theorem representable_of_value? {t : NumberText} {n : Number} (h : t.value? = some n) :
    n.Representable := by
  have hfloat : t.float?.map .float = some n → n.Representable := by
    intro hn
    obtain ⟨x, hx, rfl⟩ := Option.map_eq_some_iff.mp hn
    have hwithin := within_of_float? hx
    cases x with
    | infinite negative => exact hwithin
    | finite negative m e => exact hwithin.1
  unfold value? at h
  simp only at h
  split at h
  · split at h
    · split at h
      · next hn =>
        cases h
        exact ⟨by omega, by simp only [Word64.count]; omega⟩
      · exact hfloat h
    · split at h
      · next hn =>
        cases h
        simp only [Word64.max] at hn
        refine ⟨by omega, ?_⟩
        have hcount : 0 < Word64.count := by decide
        omega
      · exact hfloat h
  · exact hfloat h

end NumberText

end QuerySql
