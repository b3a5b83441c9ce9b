import Mathlib.Algebra.Order.Field.Power
import Mathlib.Algebra.Order.Field.Rat
import Mathlib.Tactic.FieldSimp
import Mathlib.Tactic.Linarith
import Mathlib.Tactic.NormNum
import Mathlib.Tactic.Positivity
import Mathlib.Tactic.Ring
import QuerySql.Binary64.Shortest

/-!
# Rounding to binary numbers

Around every positive binary number there is the interval of the numbers that are rounded to it. Its
ends belong to it if the mantissa is even. Rounding takes every number of the interval to the binary
number, and seventeen digits are enough for a decimal in it.

* `RoundsTo m e v`: the number `v` lies in the interval around `m * 2 ^ e`.
* `ofRatio_eq`: rounding a number in the interval.
* `roundsTo_shortest`: the shortest decimal is in the interval.
* `ofDecimal_eq`: so it reads back, however its digits and its power are split.
-/

namespace QuerySql.Binary64

/-- `m * 2 ^ e` is a number of the format, written in the one way the format has for it. -/
structure Canonical (m : Nat) (e : Int) : Prop where
  lt : m < 2 * minMantissa
  minExponent_le : minExponent ≤ e
  le_maxExponent : e ≤ maxExponent
  normal : minMantissa ≤ m ∨ e = minExponent

instance (m : Nat) (e : Int) : Decidable (Canonical m e) :=
  decidable_of_iff (m < 2 * minMantissa ∧ minExponent ≤ e ∧ e ≤ maxExponent ∧
      (minMantissa ≤ m ∨ e = minExponent))
    ⟨fun h => ⟨h.1, h.2.1, h.2.2.1, h.2.2.2⟩,
      fun h => ⟨h.lt, h.minExponent_le, h.le_maxExponent, h.normal⟩⟩

/-- How many quarters of a unit the interval reaches below the number. -/
def quartersBelow (m : Nat) (e : Int) : Nat := if m = minMantissa ∧ minExponent < e then 1 else 2

/-- The number lies in the interval of those that are rounded to `m * 2 ^ e`. -/
def RoundsTo (m : Nat) (e : Int) (v : ℚ) : Prop :=
  if m % 2 = 0 then
    (4 * m - quartersBelow m e : ℚ) / 4 * 2 ^ e ≤ v ∧ v ≤ (4 * m + 2 : ℚ) / 4 * 2 ^ e
  else
    (4 * m - quartersBelow m e : ℚ) / 4 * 2 ^ e < v ∧ v < (4 * m + 2 : ℚ) / 4 * 2 ^ e

/-! ## Ratios -/

theorem scaleRatio_pos {num den : Nat} (shift : Int) (hden : 0 < den) :
    0 < (scaleRatio num den shift).2 := by
  simp only [scaleRatio, Nat.shiftLeft_eq]
  positivity

theorem scaleRatio_div (num den : Nat) (shift : Int) :
    ((scaleRatio num den shift).1 : ℚ) / (scaleRatio num den shift).2 =
      (num : ℚ) / den * 2 ^ shift := by
  simp only [scaleRatio, Nat.shiftLeft_eq, Nat.cast_mul, Nat.cast_pow, Nat.cast_ofNat]
  have htwo : (2 : ℚ) ^ shift = 2 ^ shift.toNat / 2 ^ (-shift).toNat := by
    rw [← zpow_natCast, ← zpow_natCast, ← zpow_sub₀ (by norm_num)]
    congr 1
    omega
  rw [htwo]
  field_simp

theorem quartersBelow_le (m : Nat) (e : Int) : quartersBelow m e ≤ 2 := by
  unfold quartersBelow
  split <;> omega

/-- The test by cross products decides the interval. -/
theorem roundsTo_iff {m : Nat} {e : Int} {a b : Nat} (hm : 0 < m) (hb : 0 < b) :
    roundsTo m e a b = true ↔ RoundsTo m e ((a : ℚ) / b) := by
  have hbelow := quartersBelow_le m e
  have hb' : (0 : ℚ) < b := by exact_mod_cast hb
  have hcast : ((4 * m - quartersBelow m e : Nat) : ℚ) = 4 * m - quartersBelow m e := by
    rw [Nat.cast_sub (by omega)]
    push_cast
    rfl
  have hlow := scaleRatio_div (4 * m - quartersBelow m e) 4 e
  have hhigh := scaleRatio_div (4 * m + 2) 4 e
  have hlowPos : (0 : ℚ) < (scaleRatio (4 * m - quartersBelow m e) 4 e).2 := by
    exact_mod_cast scaleRatio_pos e (by norm_num)
  have hhighPos : (0 : ℚ) < (scaleRatio (4 * m + 2) 4 e).2 := by
    exact_mod_cast scaleRatio_pos e (by norm_num)
  rw [hcast] at hlow
  push_cast at hlow hhigh
  have hunfold : roundsTo m e a b =
      if m % 2 = 0 then
        compare ((scaleRatio (4 * m - quartersBelow m e) 4 e).1 * b)
            (a * (scaleRatio (4 * m - quartersBelow m e) 4 e).2) != .gt &&
          compare (a * (scaleRatio (4 * m + 2) 4 e).2) ((scaleRatio (4 * m + 2) 4 e).1 * b) != .gt
      else
        compare ((scaleRatio (4 * m - quartersBelow m e) 4 e).1 * b)
            (a * (scaleRatio (4 * m - quartersBelow m e) 4 e).2) == .lt &&
          compare (a * (scaleRatio (4 * m + 2) 4 e).2)
            ((scaleRatio (4 * m + 2) 4 e).1 * b) == .lt := rfl
  rw [hunfold, RoundsTo, ← hlow, ← hhigh]
  split
  · rw [div_le_div_iff₀ hlowPos hb', div_le_div_iff₀ hb' hhighPos]
    simp only [Bool.and_eq_true, bne_iff_ne, Nat.compare_ne_gt]
    norm_cast
  · rw [div_lt_div_iff₀ hlowPos hb', div_lt_div_iff₀ hb' hhighPos]
    simp only [Bool.and_eq_true, beq_iff_eq, Nat.compare_eq_lt]
    norm_cast

/-- The interval has the number itself in it. -/
theorem RoundsTo.bounds {m : Nat} {e : Int} {v : ℚ} (h : RoundsTo m e v) :
    (4 * m - quartersBelow m e : ℚ) / 4 * 2 ^ e ≤ v ∧ v ≤ (4 * m + 2 : ℚ) / 4 * 2 ^ e := by
  unfold RoundsTo at h
  split at h
  · exact h
  · exact ⟨h.1.le, h.2.le⟩

theorem RoundsTo.of_lt {m : Nat} {e : Int} {v : ℚ}
    (hlow : (4 * m - quartersBelow m e : ℚ) / 4 * 2 ^ e < v)
    (hhigh : v < (4 * m + 2 : ℚ) / 4 * 2 ^ e) : RoundsTo m e v := by
  unfold RoundsTo
  split
  · exact ⟨hlow.le, hhigh.le⟩
  · exact ⟨hlow, hhigh⟩

/-! ## Quotients -/

/-- The quotient is rounded to the number that it is nearest to, a half to the even one. -/
theorem roundQuotient_eq {n d m : Nat} (hlow : 2 * (m * d) ≤ 2 * n + d)
    (hhigh : 2 * n ≤ 2 * (m * d) + d)
    (heven : m % 2 = 0 ∨ 2 * (m * d) ≠ 2 * n + d ∧ 2 * n ≠ 2 * (m * d) + d) (hd : 0 < d) :
    roundQuotient n d = m := by
  have hn := Nat.div_add_mod n d
  have hr := Nat.mod_lt n hd
  rw [Nat.mul_comm] at hn
  unfold roundQuotient
  simp only
  generalize n / d = q at hn ⊢
  generalize n % d = r at hn hr ⊢
  have hq : q = m ∨ m = q + 1 := by
    rcases Nat.lt_trichotomy q m with h | h | h
    · right
      obtain ⟨t, rfl⟩ := Nat.exists_eq_add_of_lt h
      cases t with
      | zero => rfl
      | succ t =>
        exfalso
        simp only [Nat.add_mul, Nat.one_mul] at hlow
        omega
    · exact .inl h
    · exfalso
      obtain ⟨t, rfl⟩ := Nat.exists_eq_add_of_lt h
      simp only [Nat.add_mul, Nat.one_mul] at hn
      omega
  rcases hq with rfl | rfl
  · split
    · rfl
    · split
      · exfalso
        omega
      · omega
  · simp only [Nat.add_mul, Nat.one_mul] at hlow hhigh heven
    split
    · exfalso
      omega
    · split
      · rfl
      · omega

/-- The same for the quotient as a rational number. -/
theorem roundQuotient_eq_of_div {n d m : Nat} (hd : 0 < d) (hlow : (m : ℚ) - 1 / 2 ≤ n / d)
    (hhigh : (n : ℚ) / d ≤ m + 1 / 2)
    (heven : m % 2 = 0 ∨ (m : ℚ) - 1 / 2 < n / d ∧ (n : ℚ) / d < m + 1 / 2) :
    roundQuotient n d = m := by
  have hd' : (0 : ℚ) < d := by exact_mod_cast hd
  rw [le_div_iff₀ hd'] at hlow
  rw [div_le_iff₀ hd'] at hhigh
  refine roundQuotient_eq ?_ ?_ ?_ hd
  · rw [← @Nat.cast_le ℚ]
    push_cast
    linarith
  · rw [← @Nat.cast_le ℚ]
    push_cast
    linarith
  · refine heven.imp id fun ⟨hlow', hhigh'⟩ => ?_
    rw [lt_div_iff₀ hd'] at hlow'
    rw [div_lt_iff₀ hd'] at hhigh'
    constructor
    · refine ne_of_lt ?_
      rw [← @Nat.cast_lt ℚ]
      push_cast
      linarith
    · refine ne_of_lt ?_
      rw [← @Nat.cast_lt ℚ]
      push_cast
      linarith

/-! ## Powers of two -/

theorem two_zpow_log2 {n : Nat} (hn : 0 < n) :
    (2 : ℚ) ^ (n.log2 : Int) ≤ n ∧ (n : ℚ) < 2 ^ ((n.log2 : Int) + 1) := by
  constructor
  · rw [zpow_natCast]
    exact_mod_cast Nat.log2_self_le (by omega)
  · rw [← Nat.cast_one, ← Nat.cast_add, zpow_natCast]
    exact_mod_cast Nat.lt_log2_self

theorem ratio_bounds {num den : Nat} (hnum : 0 < num) (hden : 0 < den) {g : Int}
    (hg : (num.log2 : Int) - den.log2 = g) :
    (2 : ℚ) ^ (g - 1) ≤ (num : ℚ) / den ∧ (num : ℚ) / den < 2 ^ (g + 1) := by
  obtain ⟨hn, hn'⟩ := two_zpow_log2 hnum
  obtain ⟨hd, hd'⟩ := two_zpow_log2 hden
  have hdenPos : (0 : ℚ) < den := by exact_mod_cast hden
  have htwo : (2 : ℚ) ≠ 0 := by norm_num
  constructor
  · rw [le_div_iff₀ hdenPos]
    calc (2 : ℚ) ^ (g - 1) * den ≤ 2 ^ (g - 1) * 2 ^ ((den.log2 : Int) + 1) := by gcongr
      _ = 2 ^ (num.log2 : Int) := by
        rw [← zpow_add₀ htwo]
        congr 1
        omega
      _ ≤ num := hn
  · rw [div_lt_iff₀ hdenPos]
    calc (num : ℚ) < 2 ^ ((num.log2 : Int) + 1) := hn'
      _ = 2 ^ (g + 1) * 2 ^ (den.log2 : Int) := by
        rw [← zpow_add₀ htwo]
        congr 1
        omega
      _ ≤ 2 ^ (g + 1) * den := by gcongr

/-- The guess from the lengths of both numbers is right or one too large. -/
theorem floorLog2_spec {num den : Nat} (hnum : 0 < num) (hden : 0 < den) :
    (2 : ℚ) ^ floorLog2 num den ≤ (num : ℚ) / den ∧
      (num : ℚ) / den < 2 ^ (floorLog2 num den + 1) := by
  obtain ⟨g, hg⟩ : ∃ g : Int, (num.log2 : Int) - den.log2 = g := ⟨_, rfl⟩
  obtain ⟨hlower, hupper⟩ := ratio_bounds hnum hden hg
  have hunfold : floorLog2 num den =
      if (scaleRatio num den (-g)).2 ≤ (scaleRatio num den (-g)).1 then g else g - 1 := by
    rw [← hg]
    rfl
  have hpos : (0 : ℚ) < (scaleRatio num den (-g)).2 := by exact_mod_cast scaleRatio_pos _ hden
  have hcompare : (scaleRatio num den (-g)).2 ≤ (scaleRatio num den (-g)).1 ↔
      (2 : ℚ) ^ g ≤ (num : ℚ) / den := by
    rw [← @Nat.cast_le ℚ, ← one_le_div₀ hpos, scaleRatio_div, zpow_neg, ← div_eq_mul_inv,
      one_le_div₀ (by positivity)]
  rw [hunfold]
  split
  · next h => exact ⟨hcompare.mp h, hupper⟩
  · next h =>
    refine ⟨hlower, ?_⟩
    rw [sub_add_cancel]
    exact not_le.mp fun h' => h (hcompare.mpr h')

/-- The power of two below a number is known from any bounds on it. -/
theorem floorLog2_lt {num den : Nat} {l : Int} (hnum : 0 < num) (hden : 0 < den)
    (h : (num : ℚ) / den < 2 ^ l) : floorLog2 num den < l := by
  have hspec := (floorLog2_spec hnum hden).1.trans_lt h
  exact (zpow_lt_zpow_iff_right₀ (by norm_num)).mp hspec

theorem le_floorLog2 {num den : Nat} {l : Int} (hnum : 0 < num) (hden : 0 < den)
    (h : 2 ^ l ≤ (num : ℚ) / den) : l ≤ floorLog2 num den := by
  have hspec := h.trans_lt (floorLog2_spec hnum hden).2
  have := (zpow_lt_zpow_iff_right₀ (by norm_num : (1 : ℚ) < 2)).mp hspec
  omega

/-! ## Rounding -/

section Rounding

variable {m : Nat} {e : Int} {num den : Nat}

/-- On the grid of its own exponent, a number of the interval is rounded to the mantissa. -/
theorem roundQuotient_of_roundsTo (hden : 0 < den) (h : RoundsTo m e ((num : ℚ) / den)) :
    roundQuotient (scaleRatio num den (-e)).1 (scaleRatio num den (-e)).2 = m := by
  have hpow : (0 : ℚ) < 2 ^ e := by positivity
  have hbelow : (quartersBelow m e : ℚ) ≤ 2 := by exact_mod_cast quartersBelow_le m e
  obtain ⟨hlow, hhigh⟩ := h.bounds
  have hlow' : ((m : ℚ) - 1 / 2) * 2 ^ e ≤ (4 * m - quartersBelow m e : ℚ) / 4 * 2 ^ e := by
    gcongr
    linarith
  have hhigh' : (4 * m + 2 : ℚ) / 4 * 2 ^ e = (m + 1 / 2) * 2 ^ e := by ring
  refine roundQuotient_eq_of_div (scaleRatio_pos _ hden) ?_ ?_ ?_
  all_goals rw [scaleRatio_div, zpow_neg, ← div_eq_mul_inv]
  · rw [le_div_iff₀ hpow]
    exact hlow'.trans hlow
  · rw [div_le_iff₀ hpow, ← hhigh']
    exact hhigh
  · rw [lt_div_iff₀ hpow, div_lt_iff₀ hpow, ← hhigh']
    unfold RoundsTo at h
    split at h
    · next heven => exact .inl heven
    · exact .inr ⟨hlow'.trans_lt h.1, h.2⟩

/-- Below a power of two, a number of the interval is rounded up to it on the finer grid. -/
theorem roundQuotient_of_roundsTo_minMantissa (hden : 0 < den) (he : minExponent < e)
    (h : RoundsTo minMantissa e ((num : ℚ) / den))
    (hlt : (num : ℚ) / den < 2 ^ (e + 52)) :
    roundQuotient (scaleRatio num den (-(e - 1))).1 (scaleRatio num den (-(e - 1))).2 =
      2 * minMantissa := by
  have hpow : (0 : ℚ) < 2 ^ (e - 1) := by positivity
  have hdouble : (2 : ℚ) ^ e = 2 * 2 ^ (e - 1) := by
    rw [← zpow_one_add₀ (by norm_num)]
    congr 1
    omega
  have hquarter : quartersBelow minMantissa e = 1 := by simp [quartersBelow, he]
  have hmin : ((minMantissa : Nat) : ℚ) = 2 ^ 52 := by norm_num [minMantissa]
  obtain ⟨hlow, -⟩ := h.bounds
  rw [hquarter, hmin, hdouble] at hlow
  have hlt' : (num : ℚ) / den < 2 ^ 53 * 2 ^ (e - 1) := by
    refine hlt.trans_le (le_of_eq ?_)
    rw [← zpow_natCast, ← zpow_add₀ (by norm_num)]
    congr 1
    omega
  push_cast at hlow
  refine roundQuotient_eq_of_div (scaleRatio_pos _ hden) ?_ ?_ (.inl (by decide))
  all_goals
    rw [scaleRatio_div, zpow_neg, ← div_eq_mul_inv]
    push_cast
    rw [hmin]
  · rw [le_div_iff₀ hpow]
    linarith
  · rw [div_le_iff₀ hpow]
    linarith

theorem RoundsTo.lt_two_zpow (hc : Canonical m e) {v : ℚ} (h : RoundsTo m e v) :
    v < 2 ^ (e + 53) := by
  have hpow : (0 : ℚ) < 2 ^ e := by positivity
  have hm : (m : ℚ) + 1 ≤ 2 ^ 53 := by
    have hlt := hc.lt
    simp only [minMantissa] at hlt
    exact_mod_cast hlt
  calc v ≤ (4 * m + 2 : ℚ) / 4 * 2 ^ e := h.bounds.2
    _ < 2 ^ 53 * 2 ^ e := by
      gcongr
      linarith
    _ = 2 ^ (e + 53) := by
      rw [zpow_add₀ (by norm_num), mul_comm]
      norm_cast

/-- Only a number just below a power of two has an exponent below that of its interval. -/
theorem RoundsTo.eq_minMantissa (hc : Canonical m e) {v : ℚ} (h : RoundsTo m e v)
    (hlt : v < 2 ^ (e + 52)) (he : minExponent < e) :
    m = minMantissa ∧ (2 : ℚ) ^ (e + 51) ≤ v := by
  have hpow : (0 : ℚ) < 2 ^ e := by positivity
  have hnormal : minMantissa ≤ m := by
    rcases hc.normal with h | h
    · exact h
    · omega
  have hmin : ((minMantissa : Nat) : ℚ) = 2 ^ 52 := by norm_num [minMantissa]
  have hsplit : ∀ k : Nat, (2 : ℚ) ^ (e + k) = 2 ^ k * 2 ^ e := by
    intro k
    rw [zpow_add₀ (by norm_num), zpow_natCast, mul_comm]
  have h52 := hsplit 52
  have h51 := hsplit 51
  push_cast at h52 h51
  have hlow := h.bounds.1
  have hm : m = minMantissa := by
    by_contra hne
    have hbelow : quartersBelow m e = 2 := by simp [quartersBelow, hne]
    have hge : (2 : ℚ) ^ 52 + 1 ≤ m := by
      have : minMantissa + 1 ≤ m := by omega
      rw [← hmin]
      exact_mod_cast this
    rw [hbelow] at hlow
    have : (2 : ℚ) ^ 52 * 2 ^ e ≤ (4 * m - (2 : Nat) : ℚ) / 4 * 2 ^ e := by
      gcongr
      push_cast
      linarith
    rw [h52] at hlt
    linarith
  refine ⟨hm, ?_⟩
  have hbelow : quartersBelow m e = 1 := by simp [quartersBelow, hm, he]
  rw [hbelow, hm, hmin] at hlow
  rw [h51]
  refine le_trans ?_ hlow
  gcongr
  norm_num

/-- How a positive ratio is rounded: a mantissa that reaches the next power of two is halved. -/
theorem ofRatio_of_pos (negative : Bool) (hnum : 0 < num) :
    ofRatio negative num den =
      let e := max (floorLog2 num den - 52) minExponent
      let m := roundQuotient (scaleRatio num den (-e)).1 (scaleRatio num den (-e)).2
      let rounded := if m = 2 * minMantissa then (minMantissa, e + 1) else (m, e)
      if maxExponent < rounded.2 then .infinite negative
      else .finite negative rounded.1 rounded.2 := by
  rw [ofRatio, if_neg (by omega)]

/-- A number of the interval is rounded to the binary number that the interval belongs to. -/
theorem ofRatio_eq (hc : Canonical m e) (hnum : 0 < num) (hden : 0 < den)
    (h : RoundsTo m e ((num : ℚ) / den)) (negative : Bool) :
    ofRatio negative num den = .finite negative m e := by
  have hlt := h.lt_two_zpow hc
  have hlog := floorLog2_lt hnum hden hlt
  have hm : m ≠ 2 * minMantissa := ne_of_lt hc.lt
  have hmin := hc.minExponent_le
  have hmax := hc.le_maxExponent
  rw [ofRatio_of_pos negative hnum]
  by_cases hge : (2 : ℚ) ^ (e + 52) ≤ (num : ℚ) / den ∨ e = minExponent
  · -- The exponent is that of the interval.
    have he : max (floorLog2 num den - 52) minExponent = e := by
      rcases hge with hge | rfl
      · have := le_floorLog2 hnum hden hge
        omega
      · omega
    simp only [he, roundQuotient_of_roundsTo hden h, if_neg hm]
    rw [if_neg (by omega)]
  · -- The exponent is one less, and rounding goes up to the next power of two.
    simp only [not_or, not_le] at hge
    have hemin : minExponent < e := by omega
    obtain ⟨rfl, hlow⟩ := h.eq_minMantissa hc hge.1 hemin
    have he : max (floorLog2 num den - 52) minExponent = e - 1 := by
      have h1 := floorLog2_lt hnum hden hge.1
      have h2 := le_floorLog2 hnum hden hlow
      omega
    simp only [he, roundQuotient_of_roundsTo_minMantissa hden hemin h hge.1, if_true,
      sub_add_cancel]
    rw [if_neg (by omega)]

end Rounding

/-! ## Powers of ten -/

theorem length_toDigits {n : Nat} (hn : 0 < n) :
    10 ^ ((Nat.toDigits 10 n).length - 1) ≤ n ∧ n < 10 ^ (Nat.toDigits 10 n).length := by
  have hpos : 0 < (Nat.toDigits 10 n).length := Nat.length_toDigits_pos
  refine ⟨?_, (Nat.length_toDigits_le_iff (by norm_num) hpos).mp le_rfl⟩
  by_contra hlt
  rcases Nat.eq_zero_or_pos ((Nat.toDigits 10 n).length - 1) with hz | hz
  · rw [hz] at hlt
    omega
  · have := (Nat.length_toDigits_le_iff (by norm_num) hz).mpr (not_le.mp hlt)
    omega

theorem ten_zpow_eq (k : Int) :
    (10 : ℚ) ^ k = ((Nat.pow 10 k.toNat : Nat) : ℚ) / (Nat.pow 10 (-k).toNat : Nat) := by
  simp only [Nat.pow_eq, Nat.cast_pow, Nat.cast_ofNat]
  rw [← zpow_natCast, ← zpow_natCast, ← zpow_sub₀ (by norm_num)]
  congr 1
  omega

theorem ten_zpow_floorLog10_le {num den : Nat} (hnum : 0 < num) (hden : 0 < den) :
    (10 : ℚ) ^ floorLog10 num den ≤ (num : ℚ) / den := by
  have hden' : (0 : ℚ) < den := by exact_mod_cast hden
  have hnum' : (0 : ℚ) < num := by exact_mod_cast hnum
  unfold floorLog10
  split
  · next hle =>
    have hlen := Nat.length_toDigits_pos (b := 10) (n := num / den)
    have hpow := (length_toDigits (Nat.div_pos hle hden)).1
    have hcast : ((Nat.toDigits 10 (num / den)).length : Int) - 1 =
        ((Nat.toDigits 10 (num / den)).length - 1 : Nat) := by omega
    rw [hcast, zpow_natCast, le_div_iff₀ hden']
    have hmul : 10 ^ ((Nat.toDigits 10 (num / den)).length - 1) * den ≤ num :=
      (Nat.mul_le_mul_right den hpow).trans (Nat.div_mul_le_self num den)
    exact_mod_cast hmul
  · next hlt =>
    have hpow := (length_toDigits (Nat.div_pos (by omega : num ≤ den) hnum)).2
    obtain ⟨l, hl⟩ : ∃ l, (Nat.toDigits 10 (den / num)).length = l + 1 :=
      Nat.exists_eq_add_one.mpr Nat.length_toDigits_pos
    rw [hl] at hpow
    simp only [hl, Nat.add_sub_cancel, Nat.pow_eq]
    split
    · next heq =>
      have hden'' : (num : ℚ) * 10 ^ l = den := by exact_mod_cast heq
      rw [zpow_neg, zpow_natCast, le_div_iff₀ hden', ← hden'']
      field_simp
      exact le_rfl
    · have hcast : -((l : Int) + 1) = -((l + 1 : Nat) : Int) := by omega
      have hmul : den ≤ num * 10 ^ (l + 1) := by
        rw [Nat.mul_comm]
        exact ((Nat.div_lt_iff_lt_mul hnum).mp hpow).le
      have hmul' : (den : ℚ) ≤ num * 10 ^ (l + 1) := by exact_mod_cast hmul
      rw [hcast, zpow_neg, zpow_natCast, le_div_iff₀ hden', inv_mul_le_iff₀ (by positivity)]
      linarith

/-! ## The shortest decimal -/

section Shortest

variable {m : Nat} {e : Int} {num den : Nat}

/-- A grid point that is taken lies in the interval. -/
theorem roundsTo_of_gridPoint? (hm : 0 < m) {k : Int} {q : Nat}
    (h : gridPoint? m e num den k = some q) : RoundsTo m e (q * 10 ^ k) := by
  have hfits : roundsTo m e (q * Nat.pow 10 k.toNat) (Nat.pow 10 (-k).toNat) = true := by
    unfold gridPoint? at h
    simp only at h
    split at h
    · next h₁ h₂ =>
      split at h
      · cases h
        exact h₁
      · split at h
        · cases h
          exact h₂
        · cases h
          rcases Nat.mod_two_eq_zero_or_one (num * Nat.pow 10 (-k).toNat /
            (den * Nat.pow 10 k.toNat)) with hmod | hmod
          · rw [hmod]
            exact h₁
          · rw [hmod]
            exact h₂
    · next h₁ _ =>
      cases h
      exact h₁
    · next _ h₂ =>
      cases h
      exact h₂
    · cases h
  have hdown : 0 < Nat.pow 10 (-k).toNat := Nat.pow_pos (by norm_num)
  have hvalue := (roundsTo_iff hm hdown).mp hfits
  rw [ten_zpow_eq, ← mul_div_assoc]
  exact_mod_cast hvalue

/-- A grid that is finer than the interval is wide has a point in it, next to the number. -/
theorem isSome_gridPoint? (hm : 0 < m) (hden : 0 < den) (hv : (num : ℚ) / den = m * 2 ^ e) {k : Int}
    (hk : (10 : ℚ) ^ k < (quartersBelow m e + 2 : ℚ) / 4 * 2 ^ e) :
    (gridPoint? m e num den k).isSome = true := by
  obtain ⟨up, hup⟩ : ∃ up, Nat.pow 10 k.toNat = up := ⟨_, rfl⟩
  obtain ⟨down, hdown⟩ : ∃ down, Nat.pow 10 (-k).toNat = down := ⟨_, rfl⟩
  obtain ⟨q, hq⟩ : ∃ q, num * down / (den * up) = q := ⟨_, rfl⟩
  have hupPos : 0 < up := hup ▸ Nat.pow_pos (by norm_num)
  have hdownPos : 0 < down := hdown ▸ Nat.pow_pos (by norm_num)
  have hup' : (0 : ℚ) < up := by exact_mod_cast hupPos
  have hdown' : (0 : ℚ) < down := by exact_mod_cast hdownPos
  have hden' : (0 : ℚ) < den := by exact_mod_cast hden
  have hten := ten_zpow_eq k
  rw [hup, hdown] at hten
  have hfloor : (q * up : ℚ) / down ≤ m * 2 ^ e := by
    rw [← hv, div_le_div_iff₀ hdown' hden']
    have h := Nat.div_mul_le_self (num * down) (den * up)
    rw [hq] at h
    have h' : q * up * den ≤ num * down := by
      calc q * up * den = q * (den * up) := by ring
        _ ≤ num * down := h
    exact_mod_cast h'
  have hceil : m * 2 ^ e < ((q + 1 : Nat) * up : ℚ) / down := by
    rw [← hv, div_lt_div_iff₀ hden' hdown']
    have h := Nat.lt_mul_div_succ (num * down) (Nat.mul_pos hden hupPos)
    rw [hq] at h
    have h' : num * down < (q + 1) * up * den := by
      calc num * down < den * up * (q + 1) := h
        _ = (q + 1) * up * den := by ring
    exact_mod_cast h'
  have hstep : ((q + 1 : Nat) * up : ℚ) / down = (q * up : ℚ) / down + 10 ^ k := by
    rw [hten]
    push_cast
    ring
  have hpow : (0 : ℚ) < 2 ^ e := by positivity
  have hbelow : (0 : ℚ) < quartersBelow m e / 4 * 2 ^ e := by
    unfold quartersBelow
    split <;> positivity
  have hlow : (4 * m - quartersBelow m e : ℚ) / 4 * 2 ^ e =
      m * 2 ^ e - quartersBelow m e / 4 * 2 ^ e := by ring
  have hhigh : (4 * m + 2 : ℚ) / 4 * 2 ^ e = m * 2 ^ e + 1 / 2 * 2 ^ e := by ring
  have hwidth : (quartersBelow m e + 2 : ℚ) / 4 * 2 ^ e =
      quartersBelow m e / 4 * 2 ^ e + 1 / 2 * 2 ^ e := by ring
  rw [hwidth] at hk
  have hfits : roundsTo m e (q * up) down = true ∨ roundsTo m e ((q + 1) * up) down = true := by
    rw [roundsTo_iff hm hdownPos, roundsTo_iff hm hdownPos]
    push_cast at hstep hceil ⊢
    by_cases hnear : m * 2 ^ e - (q * up : ℚ) / down < (quartersBelow m e : ℚ) / 4 * 2 ^ e
    · left
      refine .of_lt ?_ ?_
      · rw [hlow]
        linarith
      · rw [hhigh]
        linarith
    · right
      refine .of_lt ?_ ?_
      · rw [hlow]
        linarith
      · rw [hstep, hhigh]
        linarith
  unfold gridPoint?
  simp only [hup, hdown, hq]
  split
  · rfl
  · rfl
  · rfl
  · next h₁ h₂ =>
    rw [h₁, h₂] at hfits
    simp at hfits

/-- Seventeen digits make a grid that is fine enough. -/
theorem ten_zpow_lt_width (hc : Canonical m e) {top : Int} (htop : (10 : ℚ) ^ top ≤ m * 2 ^ e) :
    (10 : ℚ) ^ (top - 16) < (quartersBelow m e + 2 : ℚ) / 4 * 2 ^ e := by
  have hpow : (0 : ℚ) < 2 ^ e := by positivity
  have hsplit : (10 : ℚ) ^ (top - 16) = 10 ^ top / 10 ^ 16 := by
    rw [zpow_sub₀ (by norm_num)]
    norm_cast
  have hm : (m : ℚ) / 10 ^ 16 < (quartersBelow m e + 2 : ℚ) / 4 := by
    unfold quartersBelow
    split
    · next h =>
      rw [h.1]
      norm_num [minMantissa]
    · have hlt : (m : ℚ) < 9007199254740992 := by exact_mod_cast hc.lt
      rw [div_lt_iff₀ (by norm_num)]
      push_cast
      linarith
  calc (10 : ℚ) ^ (top - 16) = 10 ^ top / 10 ^ 16 := hsplit
    _ ≤ m * 2 ^ e / 10 ^ 16 := by gcongr
    _ = m / 10 ^ 16 * 2 ^ e := by ring
    _ < (quartersBelow m e + 2 : ℚ) / 4 * 2 ^ e := by gcongr

theorem dropZeros_eq (fuel q : Nat) (k : Int) :
    ((dropZeros fuel q k).1 : ℚ) * 10 ^ (dropZeros fuel q k).2 = q * 10 ^ k := by
  induction fuel generalizing q k with
  | zero => rfl
  | succ fuel ih =>
    rw [dropZeros]
    split
    · next h =>
      rw [ih, zpow_add_one₀ (by norm_num)]
      have hq : ((q / 10 : Nat) : ℚ) * 10 = q := by
        have : q / 10 * 10 = q := by omega
        exact_mod_cast this
      calc ((q / 10 : Nat) : ℚ) * (10 ^ k * 10) = (q / 10 : Nat) * 10 * 10 ^ k := by ring
        _ = q * 10 ^ k := by rw [hq]
    · rfl

theorem RoundsTo.pos (hm : 0 < m) {v : ℚ} (h : RoundsTo m e v) : 0 < v := by
  have hpow : (0 : ℚ) < 2 ^ e := by positivity
  have hm' : (1 : ℚ) ≤ m := by exact_mod_cast hm
  have hbelow : (quartersBelow m e : ℚ) ≤ 2 := by exact_mod_cast quartersBelow_le m e
  refine lt_of_lt_of_le ?_ h.bounds.1
  have : (0 : ℚ) < (4 * m - quartersBelow m e) / 4 := by linarith
  positivity

/-- The shortest decimal lies in the interval. -/
theorem roundsTo_shortest (hc : Canonical m e) (hm : 0 < m) :
    RoundsTo m e ((shortest m e).1 * 10 ^ (shortest m e).2) := by
  obtain ⟨num, hnum⟩ : ∃ num, (scaleRatio m 1 e).1 = num := ⟨_, rfl⟩
  obtain ⟨den, hden⟩ : ∃ den, (scaleRatio m 1 e).2 = den := ⟨_, rfl⟩
  have hdenPos : 0 < den := hden ▸ scaleRatio_pos e (by norm_num)
  have hv : (num : ℚ) / den = m * 2 ^ e := by
    rw [← hnum, ← hden, scaleRatio_div]
    simp
  have hnumPos : 0 < num := by
    by_contra h
    have hz : num = 0 := by omega
    have hpos : (0 : ℚ) < m * 2 ^ e := by
      have : (0 : ℚ) < m := by exact_mod_cast hm
      positivity
    rw [← hv, hz] at hpos
    simp at hpos
  have htop := ten_zpow_floorLog10_le hnumPos hdenPos
  rw [hv] at htop
  have hscale : scaleRatio m 1 e = (num, den) := by rw [← hnum, ← hden]
  have hsome : (((List.range 17).map fun (i : Nat) => floorLog10 num den - (i : Int)).findSome?
      fun k => (gridPoint? m e num den k).map (·, k)).isSome := by
    -- The finest of the grids has a point.
    rw [List.findSome?_isSome_iff]
    have hpoint := isSome_gridPoint? hm hdenPos hv (ten_zpow_lt_width hc htop)
    exact ⟨floorLog10 num den - 16, List.mem_map.mpr ⟨16, by simp, rfl⟩, by simpa using hpoint⟩
  obtain ⟨⟨q, k⟩, hfind⟩ := Option.isSome_iff_exists.mp hsome
  obtain ⟨k', -, hk'⟩ := List.exists_of_findSome?_eq_some hfind
  obtain ⟨q', hq', hqk⟩ := Option.map_eq_some_iff.mp hk'
  cases hqk
  have hshortest : shortest m e = dropZeros 17 q k := by
    rw [shortest, hscale]
    simp only [hfind]
  rw [hshortest, dropZeros_eq]
  exact roundsTo_of_gridPoint? hm hq'

/-! ## Decimals -/

/-- No number of an interval is so small that it is read as zero. -/
theorem RoundsTo.ten_zpow_lt (hc : Canonical m e) (hm : 0 < m) {v : ℚ} (h : RoundsTo m e v) :
    (10 : ℚ) ^ (-324 : Int) < v := by
  have hm' : (1 : ℚ) ≤ m := by exact_mod_cast hm
  have hbelow : (quartersBelow m e : ℚ) ≤ 2 := by exact_mod_cast quartersBelow_le m e
  have hmin := hc.minExponent_le
  simp only [minExponent] at hmin
  have hpowers : (2 : ℚ) ^ 1075 < 10 ^ 324 := by
    have hnat : 2 ^ 1075 < 10 ^ 324 := by decide +kernel
    exact_mod_cast hnat
  calc (10 : ℚ) ^ (-324 : Int) = (10 ^ 324)⁻¹ := by rw [zpow_neg, zpow_ofNat]
    _ < (2 ^ 1075)⁻¹ := (inv_lt_inv₀ (by positivity) (by positivity)).mpr hpowers
    _ = 2 ^ (-1075 : Int) := by rw [zpow_neg, zpow_ofNat]
    _ ≤ 2 ^ (e - 1) := zpow_le_zpow_right₀ one_le_two (by omega)
    _ = 1 / 2 * 2 ^ e := by rw [zpow_sub_one₀ two_ne_zero]; ring
    _ ≤ (4 * m - quartersBelow m e : ℚ) / 4 * 2 ^ e :=
      mul_le_mul_of_nonneg_right (by linarith) (by positivity)
    _ ≤ v := h.bounds.1

/-- No number of an interval is so large that it is read as infinite. -/
theorem RoundsTo.lt_ten_zpow (hc : Canonical m e) {v : ℚ} (h : RoundsTo m e v) :
    v < (10 : ℚ) ^ (310 : Int) := by
  have hmax := hc.le_maxExponent
  simp only [maxExponent] at hmax
  have hpowers : (2 : ℚ) ^ 1024 < 10 ^ 310 := by
    have hnat : 2 ^ 1024 < 10 ^ 310 := by decide +kernel
    exact_mod_cast hnat
  calc v < 2 ^ (e + 53) := h.lt_two_zpow hc
    _ ≤ 2 ^ (1024 : Int) := zpow_le_zpow_right₀ one_le_two (by omega)
    _ < (10 : ℚ) ^ (310 : Int) := by
      rw [zpow_ofNat, zpow_ofNat]
      exact hpowers

/-- A decimal in the interval is read as the binary number, whatever its digits are. -/
theorem ofDecimal_eq (hc : Canonical m e) (hm : 0 < m) {coefficient : Nat} {exponent : Int}
    (h : RoundsTo m e (coefficient * 10 ^ exponent)) (negative : Bool) :
    ofDecimal negative coefficient exponent = .finite negative m e := by
  have hten : (10 : ℚ) ≠ 0 := by norm_num
  have hpow : (0 : ℚ) < 10 ^ exponent := by positivity
  have hcoefficient : 0 < coefficient := by
    have hpos := h.pos hm
    exact_mod_cast pos_of_mul_pos_left hpos hpow.le
  obtain ⟨hlow, hhigh⟩ := length_toDigits hcoefficient
  obtain ⟨l, hl⟩ : ∃ l, (Nat.toDigits 10 coefficient).length = l + 1 :=
    Nat.exists_eq_add_one.mpr Nat.length_toDigits_pos
  rw [hl, Nat.add_sub_cancel] at hlow
  rw [hl] at hhigh
  have hlow' : (10 : ℚ) ^ l ≤ coefficient := by exact_mod_cast hlow
  have hhigh' : (coefficient : ℚ) < 10 ^ (l + 1) := by exact_mod_cast hhigh
  have hnotSmall : ¬ ((l + 1 : Nat) + exponent ≤ -324) := by
    intro hle
    have hlt : (coefficient : ℚ) * 10 ^ exponent < 10 ^ (-324 : Int) := by
      calc (coefficient : ℚ) * 10 ^ exponent < 10 ^ (l + 1) * 10 ^ exponent := by gcongr
        _ = 10 ^ (((l + 1 : Nat) : Int) + exponent) := by rw [zpow_add₀ hten, zpow_natCast]
        _ ≤ 10 ^ (-324 : Int) := by
          gcongr
          norm_num
    exact absurd (h.ten_zpow_lt hc hm) (not_lt.mpr hlt.le)
  have hnotLarge : ¬ (310 < (l + 1 : Nat) + exponent) := by
    intro hlt
    have hle : (10 : ℚ) ^ (310 : Int) ≤ coefficient * 10 ^ exponent := by
      calc (10 : ℚ) ^ (310 : Int) ≤ 10 ^ ((l : Int) + exponent) := by
            gcongr
            · norm_num
            · omega
        _ = 10 ^ l * 10 ^ exponent := by rw [zpow_add₀ hten, zpow_natCast]
        _ ≤ coefficient * 10 ^ exponent := by gcongr
    exact absurd (h.lt_ten_zpow hc) (not_lt.mpr hle)
  have hratio : ((coefficient * 10 ^ exponent.toNat : Nat) : ℚ) /
      (10 ^ (-exponent).toNat : Nat) = coefficient * 10 ^ exponent := by
    rw [ten_zpow_eq exponent, Nat.cast_mul, mul_div_assoc]
    rfl
  unfold ofDecimal
  simp only [hl]
  rw [if_neg (by omega), if_neg hnotLarge]
  refine ofRatio_eq hc (Nat.mul_pos hcoefficient (Nat.pow_pos (by norm_num)))
    (Nat.pow_pos (by norm_num)) ?_ negative
  rw [hratio]
  exact h

end Shortest

end QuerySql.Binary64
