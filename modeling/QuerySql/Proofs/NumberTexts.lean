import QuerySql.Proofs.ReadNumbers

/-!
# Written numbers can be read

Every number that is written has the form that a reader of JSON expects, and a value: an integer of
a 64-bit word is read as itself, and a finite binary number as a binary number. The reader rounds
the digits and the power of ten and then their product, so that a number next to the end of the
range could be lost to these roundings. None is: three numbers are so near to it that their
decimals have to be multiplied out, and for all others the roundings are too small to matter.

* `NumberText.scan?_written`: a number in its form is scanned up to its end.
* `FloatLayout.written_parts`: every layout of a decimal is in that form.
* `NumberText.isSome_scale?`: a product that is well within the range is not lost.
* `Number.exists_scan?`: every number that is written can be read.
-/

namespace QuerySql

/-! ## The form of a number -/

namespace NumberText

/-- A row of digits, at least one. -/
def IsDigits (ds : List Char) : Prop := ds ≠ [] ∧ ∀ c ∈ ds, c.isDigit = true

/-- The parts are rows of digits, and the whole part has no zero before another digit. -/
structure WellFormed (t : NumberText) : Prop where
  whole : IsDigits t.whole
  leading : t.whole.head? = some '0' → t.whole.length ≤ 1
  fraction : ∀ ds ∈ t.fraction, IsDigits ds
  exponent : ∀ p ∈ t.exponent, IsDigits p.2

/-- The character could go on a number. -/
def isContinuing (c : Char) : Bool := c.isDigit || c = '.' || c = 'e' || c = 'E'

theorem takeWhile_digits {ds rest : List Char} (hds : ∀ c ∈ ds, c.isDigit = true)
    (hrest : rest.head?.all (fun c => !c.isDigit) = true) :
    (ds ++ rest).takeWhile Char.isDigit = ds ∧ (ds ++ rest).dropWhile Char.isDigit = rest := by
  rw [List.takeWhile_append_of_pos hds, List.dropWhile_append_of_pos hds]
  cases rest with
  | nil => simp
  | cons c rest =>
    have hc : c.isDigit = false := by simpa using hrest
    simp [hc]

/-- The exponent as it is written. -/
def exponentText : Option (Bool × List Char) → List Char
  | none => []
  | some (negative, ds) => 'e' :: (if negative then '-' else '+') :: ds

/-- The fraction as it is written. -/
def fractionText : Option (List Char) → List Char
  | none => []
  | some ds => '.' :: ds

/-- The number as it is written, with a sign before its exponent. -/
def written (t : NumberText) : List Char :=
  (if t.negative then ['-'] else []) ++
    (t.whole ++ (fractionText t.fraction ++ exponentText t.exponent))

section Scan

variable {rest : List Char}

theorem scanExponent?_written (hrest : rest.head?.all (fun c => !isContinuing c) = true)
    {exponent : Option (Bool × List Char)} (h : ∀ p ∈ exponent, IsDigits p.2) :
    scanExponent? (exponentText exponent ++ rest) = some (exponent, rest) := by
  cases exponent with
  | none =>
    rw [exponentText, List.nil_append]
    unfold scanExponent?
    split
    · cases hrest
    · cases hrest
    · rfl
  | some p =>
    obtain ⟨negative, ds⟩ := p
    obtain ⟨hne, hds⟩ := h _ rfl
    have hdigit : rest.head?.all (fun c => !c.isDigit) = true := by
      cases rest with
      | nil => rfl
      | cons c rest => simp_all [isContinuing]
    obtain ⟨htake, hdrop⟩ := takeWhile_digits hds hdigit
    cases negative <;> simp [exponentText, scanExponent?, scanSign, htake, hdrop, hne]

/-- What follows a row of digits before an exponent does not go on it. -/
theorem head?_exponentText (hrest : rest.head?.all (fun c => !isContinuing c) = true)
    (exponent : Option (Bool × List Char)) :
    (exponentText exponent ++ rest).head?.all (fun c => !c.isDigit && c ≠ '.') = true := by
  cases exponent with
  | none =>
    cases rest with
    | nil => rfl
    | cons c rest => simp_all [exponentText, isContinuing]
  | some p => rfl

theorem scanFraction?_written (hrest : rest.head?.all (fun c => !c.isDigit && c ≠ '.') = true)
    {fraction : Option (List Char)} (h : ∀ ds ∈ fraction, IsDigits ds) :
    scanFraction? (fractionText fraction ++ rest) = some (fraction, rest) := by
  cases fraction with
  | none =>
    rw [fractionText, List.nil_append]
    unfold scanFraction?
    split
    · cases hrest
    · rfl
  | some ds =>
    obtain ⟨hne, hds⟩ := h _ rfl
    have hdigit : rest.head?.all (fun c => !c.isDigit) = true := by
      cases rest with
      | nil => rfl
      | cons c rest => simp_all
    obtain ⟨htake, hdrop⟩ := takeWhile_digits hds hdigit
    simp [fractionText, scanFraction?, htake, hdrop, hne]

/-- A minus is taken off first. -/
theorem scan?_signed (negative : Bool) {d : Char} (hd : d ≠ '-') (cs : List Char) :
    scan? ((if negative then ['-'] else []) ++ d :: cs) =
      let whole := (d :: cs).takeWhile Char.isDigit
      if whole.isEmpty || (whole.head? == some '0' && whole.length > 1) then none
      else
        (scanFraction? ((d :: cs).dropWhile Char.isDigit)).bind fun f =>
          (scanExponent? f.2).bind fun e => some (⟨negative, whole, f.1, e.1⟩, e.2) := by
  cases negative with
  | true => rfl
  | false =>
    simp only [Bool.false_eq_true, if_false, List.nil_append]
    unfold scan?
    split
    next heq =>
    split at heq
    · next hcons => exact absurd (List.cons.inj hcons).1 hd
    · cases heq
      rfl

/-- A number in its form is scanned up to its end. -/
theorem scan?_written {t : NumberText} (ht : t.WellFormed)
    (hrest : rest.head?.all (fun c => !isContinuing c) = true) :
    scan? (t.written ++ rest) = some (t, rest) := by
  obtain ⟨negative, whole, fraction, exponent⟩ := t
  obtain ⟨⟨hne, hwhole⟩, hleading, hfraction, hexponent⟩ := ht
  simp only at hne hwhole hleading hfraction hexponent
  have hhead := head?_exponentText hrest exponent
  have hdigit : (fractionText fraction ++ (exponentText exponent ++ rest)).head?.all
      (fun c => !c.isDigit) = true := by
    cases fraction with
    | none =>
      rw [fractionText, List.nil_append]
      cases hcs : exponentText exponent ++ rest with
      | nil => rfl
      | cons c cs =>
        rw [hcs] at hhead
        simp_all
    | some ds => rfl
  obtain ⟨htake, hdrop⟩ := takeWhile_digits hwhole hdigit
  obtain ⟨d, ds, rfl⟩ := List.exists_cons_of_ne_nil hne
  have hminus : d ≠ '-' := by
    rintro rfl
    exact absurd (hwhole _ List.mem_cons_self) (by decide)
  have hlong : ¬ (d = '0' ∧ 0 < ds.length) := by
    rintro ⟨rfl, hlt⟩
    have hle := hleading rfl
    simp only [List.length_cons] at hle
    omega
  have hfractionScan := scanFraction?_written hhead hfraction
  have hexponentScan := scanExponent?_written hrest hexponent
  simp only [written, List.append_assoc]
  rw [List.cons_append] at htake hdrop ⊢
  rw [scan?_signed negative hminus, htake, hdrop]
  simp [hlong, hfractionScan, hexponentScan]

end Scan

end NumberText

/-! ## Layouts -/

/-- The parts of a decimal in a layout. -/
def FloatLayout.parts (layout : FloatLayout) (negative : Bool) (digits : List Char) (power : Int) :
    NumberText :=
  let first : Int := power + digits.length - 1
  if layout.least ≤ first ∧ first ≤ layout.greatest then
    if 0 ≤ power then ⟨negative, digits ++ List.replicate power.toNat '0', some ['0'], none⟩
    else if 0 ≤ first then
      ⟨negative, digits.take (first.toNat + 1), some (digits.drop (first.toNat + 1)), none⟩
    else ⟨negative, ['0'], some (List.replicate (-first - 1).toNat '0' ++ digits), none⟩
  else
    ⟨negative, digits.take 1, if digits.length ≤ 1 then none else some (digits.drop 1),
      some (decide (first < 0), Nat.toDigits 10 first.natAbs)⟩

theorem FloatLayout.written_parts (layout : FloatLayout) (negative : Bool) (digits : List Char)
    (power : Int) :
    (layout.parts negative digits power).written =
      if negative then '-' :: layout.decimal digits power else layout.decimal digits power := by
  have hsign : ∀ cs : List Char,
      (if negative then ['-'] else []) ++ cs = if negative then '-' :: cs else cs := by
    intro cs
    cases negative <;> rfl
  unfold FloatLayout.parts FloatLayout.decimal
  simp only
  split
  · split
    · simp [NumberText.written, NumberText.fractionText, NumberText.exponentText, hsign]
    · split <;> simp [NumberText.written, NumberText.fractionText, NumberText.exponentText, hsign]
  · by_cases hshort : digits.length ≤ 1
    · simp [NumberText.written, NumberText.fractionText, NumberText.exponentText, hsign, hshort]
    · simp [NumberText.written, NumberText.fractionText, NumberText.exponentText, hsign, hshort]

/-- The first digit of a number is no zero. -/
theorem head?_toDigits {n : Nat} (hn : 0 < n) : (Nat.toDigits 10 n).head? ≠ some '0' := by
  induction n using Nat.strongRecOn with
  | ind n ih =>
    rw [Nat.toDigits_eq_if (by decide)]
    split
    · next hlt =>
      have hdigit : ∀ k < 10, 0 < k → [Nat.digitChar k].head? ≠ some '0' := by decide
      exact hdigit n hlt hn
    · next hge =>
      obtain ⟨d, ds, hds⟩ := List.exists_cons_of_ne_nil (@Nat.toDigits_ne_nil (n / 10) 10)
      have hhead := ih (n / 10) (by omega) (by omega)
      rw [hds] at hhead ⊢
      exact hhead

/-- A layout of a number is in the form that is read. -/
theorem FloatLayout.wellFormed_parts (layout : FloatLayout) (negative : Bool) {q : Nat} {k : Int}
    (h : 0 < q ∨ k = 0) : (layout.parts negative (Nat.toDigits 10 q) k).WellFormed := by
  have hdigit := @isDigit_toDigits q
  have hne := @Nat.toDigits_ne_nil q 10
  have hhead : (Nat.toDigits 10 q).head? = some '0' → (Nat.toDigits 10 q).length ≤ 1 ∧ k = 0 := by
    intro hzero
    rcases Nat.eq_zero_or_pos q with rfl | hq
    · exact ⟨by decide, h.resolve_left (by omega)⟩
    · exact absurd hzero (head?_toDigits hq)
  generalize Nat.toDigits 10 q = ds at hdigit hne hhead ⊢
  have hlength : 0 < ds.length := List.length_pos_iff.mpr hne
  have hheadTake : ∀ n, (ds.take (n + 1)).head? = ds.head? := by
    intro n
    cases ds <;> rfl
  have hsplit : ∀ n, NumberText.IsDigits (ds.take (n + 1)) ∧
      ((ds.take (n + 1)).head? = some '0' → (ds.take (n + 1)).length ≤ 1) := by
    intro n
    refine ⟨⟨by simp [hne], fun c hc => hdigit c (List.mem_of_mem_take hc)⟩, fun hzero => ?_⟩
    rw [hheadTake] at hzero
    exact (List.length_take_le' _ _).trans (hhead hzero).1
  unfold FloatLayout.parts
  simp only
  split
  · split
    · next hk =>
      refine ⟨⟨by simp [hne], ?_⟩, ?_, ?_, by simp⟩
      · intro c hc
        rcases List.mem_append.mp hc with hc | hc
        · exact hdigit c hc
        · exact isDigit_replicate_zero c hc
      · intro hzero
        rw [List.head?_append_of_ne_nil _ hne] at hzero
        obtain ⟨hshort, rfl⟩ := hhead hzero
        simpa using hshort
      · rintro _ ⟨⟩
        exact ⟨by simp, by simp⟩
    · split
      · next hk hfirst =>
        refine ⟨(hsplit _).1, (hsplit _).2, ?_, by simp⟩
        rintro _ ⟨⟩
        exact ⟨by rw [ne_eq, List.drop_eq_nil_iff]; omega,
          fun c hc => hdigit c (List.mem_of_mem_drop hc)⟩
      · refine ⟨⟨by simp, by simp⟩, by simp, ?_, by simp⟩
        rintro _ ⟨⟩
        refine ⟨by simp [hne], fun c hc => ?_⟩
        rcases List.mem_append.mp hc with hc | hc
        · exact isDigit_replicate_zero c hc
        · exact hdigit c hc
  · refine ⟨(hsplit 0).1, (hsplit 0).2, ?_, ?_⟩
    · intro fraction hfraction
      simp only at hfraction
      split at hfraction
      · cases hfraction
      · next hlong =>
        cases hfraction
        exact ⟨by rw [ne_eq, List.drop_eq_nil_iff]; omega,
          fun c hc => hdigit c (List.mem_of_mem_drop hc)⟩
    · rintro _ ⟨⟩
      exact ⟨Nat.toDigits_ne_nil, isDigit_toDigits⟩

/-! ## Roundings -/

namespace Binary64

variable {num den : Nat}

theorem roundQuotient_le_add_half (n : Nat) {d : Nat} (hd : 0 < d) :
    (roundQuotient n d : ℚ) ≤ n / d + 1 / 2 := by
  have hd' : (0 : ℚ) < d := by exact_mod_cast hd
  have hn := Nat.div_add_mod n d
  have hnat : 2 * (d * roundQuotient n d) ≤ 2 * n + d := by
    unfold roundQuotient
    simp only
    generalize n / d = q at hn ⊢
    split
    · omega
    · split
      · rw [Nat.mul_add]
        omega
      · rcases Nat.mod_two_eq_zero_or_one q with hq | hq <;> rw [hq, Nat.mul_add] <;> omega
  have hcast : 2 * ((d : ℚ) * roundQuotient n d) ≤ 2 * n + d := by exact_mod_cast hnat
  have hdiv : (n : ℚ) / d + 1 / 2 = (2 * n + d) / (2 * d) := by field_simp
  rw [hdiv, le_div_iff₀ (by positivity)]
  linarith

/-- The same on the grid of an exponent. -/
theorem roundQuotient_scaleRatio_le (num : Nat) (hden : 0 < den) (e : Int) :
    (roundQuotient (scaleRatio num den (-e)).1 (scaleRatio num den (-e)).2 : ℚ) * 2 ^ e ≤
      num / den + 1 / 2 * 2 ^ e := by
  have hpow : (0 : ℚ) < 2 ^ e := by positivity
  have hround := roundQuotient_le_add_half (scaleRatio num den (-e)).1
    (@scaleRatio_pos num den (-e) hden)
  rw [scaleRatio_div, zpow_neg] at hround
  calc _ ≤ ((num : ℚ) / den * (2 ^ e)⁻¹ + 1 / 2) * 2 ^ e := by gcongr
    _ = num / den + 1 / 2 * 2 ^ e := by field_simp

/-- Rounding makes a number that is at least one greater by a fraction of itself at most. -/
theorem ofRatio_le (negative : Bool) (hden : 0 < den) (hone : 1 ≤ (num : ℚ) / den) {s : Bool}
    {m : Nat} {e : Int} (h : ofRatio negative num den = .finite s m e) :
    (m : ℚ) * 2 ^ e ≤ (1 + 1 / 2 ^ 53) * (num / den) := by
  have hnum : 0 < num := by
    rcases Nat.eq_zero_or_pos num with rfl | hnum
    · norm_num at hone
    · exact hnum
  obtain ⟨l, hl⟩ : ∃ l, floorLog2 num den = l := ⟨_, rfl⟩
  have hlog : 0 ≤ l := hl ▸ le_floorLog2 hnum hden (by simpa using hone)
  have hlow : (2 : ℚ) ^ l ≤ num / den := hl ▸ (floorLog2_spec hnum hden).1
  obtain ⟨e₀, he₀⟩ : ∃ e₀, l - 52 = e₀ := ⟨_, rfl⟩
  have hmax : max (l - 52) minExponent = e₀ := by
    simp only [minExponent]
    omega
  obtain ⟨r, hr⟩ : ∃ r, roundQuotient (scaleRatio num den (-e₀)).1
      (scaleRatio num den (-e₀)).2 = r := ⟨_, rfl⟩
  have hvalue : (m : ℚ) * 2 ^ e = r * 2 ^ e₀ := by
    rw [ofRatio_of_pos negative hnum] at h
    simp only [hl, hmax, hr] at h
    by_cases hcarry : r = 2 * minMantissa
    · simp only [if_pos hcarry] at h
      split at h
      · cases h
      · cases h
        rw [hcarry, zpow_add_one₀ two_ne_zero]
        push_cast
        ring
    · simp only [if_neg hcarry] at h
      split at h
      · cases h
      · cases h
        rfl
  have hround := roundQuotient_scaleRatio_le num hden e₀
  rw [hr] at hround
  have hhalf : 1 / 2 * (2 : ℚ) ^ e₀ = 1 / 2 ^ 53 * 2 ^ l := by
    rw [← he₀, zpow_sub₀ two_ne_zero]
    norm_cast
    ring
  calc (m : ℚ) * 2 ^ e = r * 2 ^ e₀ := hvalue
    _ ≤ num / den + 1 / 2 * 2 ^ e₀ := hround
    _ = num / den + 1 / 2 ^ 53 * 2 ^ l := by rw [hhalf]
    _ ≤ num / den + 1 / 2 ^ 53 * (num / den) := by gcongr
    _ = (1 + 1 / 2 ^ 53) * (num / den) := by ring

/-- A number is rounded to a finite one up to half a unit beyond the greatest. -/
theorem isInfinite_ofRatio (negative : Bool) (hden : 0 < den)
    (h : (num : ℚ) / den < (2 ^ 53 - 1 / 2) * 2 ^ (971 : Int)) :
    (ofRatio negative num den).isInfinite = false := by
  rcases Nat.eq_zero_or_pos num with rfl | hnum
  · rfl
  · have htop : (num : ℚ) / den < 2 ^ (1024 : Int) := by
      refine h.trans ?_
      have hsplit : (2 : ℚ) ^ (1024 : Int) = 2 ^ 53 * 2 ^ (971 : Int) := by
        rw [← zpow_natCast, ← zpow_add₀ two_ne_zero]
        norm_num
      rw [hsplit]
      gcongr
      norm_num
    have hlog := floorLog2_lt hnum hden htop
    obtain ⟨e₀, he₀⟩ : ∃ e₀, max (floorLog2 num den - 52) minExponent = e₀ := ⟨_, rfl⟩
    have hle : e₀ ≤ 971 := by
      simp only [minExponent] at he₀
      omega
    have hrange : roundQuotient (scaleRatio num den (-e₀)).1 (scaleRatio num den (-e₀)).2 =
        2 * minMantissa → e₀ < 971 := by
      -- Only at the greatest exponent a carry would leave the range.
      intro hcarry
      refine lt_of_le_of_ne hle fun hlast => ?_
      have hround := roundQuotient_scaleRatio_le num hden e₀
      rw [hcarry, hlast] at hround
      have hpow : (0 : ℚ) < 2 ^ (971 : Int) := by positivity
      generalize (2 : ℚ) ^ (971 : Int) = unit at h hround hpow
      push_cast [minMantissa] at hround
      nlinarith
    rw [ofRatio_of_pos negative hnum]
    simp only [he₀]
    by_cases hcarry : roundQuotient (scaleRatio num den (-e₀)).1 (scaleRatio num den (-e₀)).2 =
        2 * minMantissa
    · have hlt := hrange hcarry
      simp only [if_pos hcarry]
      rw [if_neg (by simp only [maxExponent]; omega)]
      rfl
    · simp only [if_neg hcarry]
      rw [if_neg (by simp only [maxExponent]; omega)]
      rfl

theorem end_lt_ten_pow : ((2 : ℚ) ^ 53 - 7 / 2) * 2 ^ (971 : Int) < 10 ^ 309 := by
  have hnat : 2 ^ 53 * 2 ^ 971 < 10 ^ 309 := by decide +kernel
  calc ((2 : ℚ) ^ 53 - 7 / 2) * 2 ^ (971 : Int) < 2 ^ 53 * 2 ^ (971 : Int) :=
        mul_lt_mul_of_pos_right (by norm_num) (by positivity)
    _ = ((2 ^ 53 * 2 ^ 971 : Nat) : ℚ) := by
      rw [zpow_ofNat, Nat.cast_mul, Nat.cast_pow, Nat.cast_pow, Nat.cast_ofNat]
    _ < ((10 ^ 309 : Nat) : ℚ) := Nat.cast_lt.mpr hnat
    _ = 10 ^ 309 := by rw [Nat.cast_pow, Nat.cast_ofNat]

/-- The first digit of a number within the range is below the power `309`. -/
theorem first_lt_of_le_end {q n : Nat} (hq : 10 ^ n ≤ q) {k : Int}
    (h : (q : ℚ) * 10 ^ k ≤ (2 ^ 53 - 7 / 2) * 2 ^ (971 : Int)) : k + n < 309 := by
  have hcast : (10 : ℚ) ^ n ≤ q := by exact_mod_cast hq
  have hten : (10 : ℚ) ^ (k + n) ≤ q * 10 ^ k := by
    rw [zpow_add₀ (by norm_num), zpow_natCast, mul_comm]
    gcongr
  have hlt := (hten.trans h).trans_lt end_lt_ten_pow
  rw [← zpow_natCast] at hlt
  exact (zpow_lt_zpow_iff_right₀ (by norm_num)).mp hlt

/-- The product of a word and a power of ten is finite unless it is next to the end of the range:
the three roundings make it greater by three parts in `2 ^ 53` at most. -/
theorem isInfinite_mul_powerOfTen {n k : Nat} (hpos : 0 < n) (hn : n ≤ Word64.max)
    (hk : k < NumberText.maxPower + 1)
    (h : (n : ℚ) * 10 ^ k ≤ (2 ^ 53 - 7 / 2) * 2 ^ (971 : Int)) :
    ((ofNat n).mul (powerOfTen k)).isInfinite = false := by
  have hwithin := within_ofNat hn
  have hleast := isAtLeastOne_powerOfTen k hk
  cases hx : ofNat n with
  | infinite s =>
    rw [hx] at hwithin
    exact hwithin.elim
  | finite s m e =>
    cases hy : powerOfTen k with
    | infinite s' =>
      rw [hy] at hleast
      cases hleast
    | finite s' m' e' =>
      have hcast : (Nat.cast (Nat.pow 10 k) : ℚ) = 10 ^ k := by norm_cast
      have hone : (1 : ℚ) ≤ n := by exact_mod_cast hpos
      have hm := ofRatio_le false one_pos (by simpa using hone) hx
      have hm' := ofRatio_le false one_pos (by rw [hcast]; simpa using one_le_pow₀ (by norm_num)) hy
      rw [Nat.cast_one, div_one] at hm hm'
      rw [hcast] at hm'
      have hden : 0 < (scaleRatio (m * m') 1 (e + e')).2 := scaleRatio_pos _ one_pos
      refine @isInfinite_ofRatio (scaleRatio (m * m') 1 (e + e')).1 _ _ hden ?_
      calc ((scaleRatio (m * m') 1 (e + e')).1 : ℚ) / (scaleRatio (m * m') 1 (e + e')).2
          = ((m * m' : Nat) : ℚ) / (1 : Nat) * 2 ^ (e + e') := scaleRatio_div _ _ _
        _ = (m * 2 ^ e) * (m' * 2 ^ e') := by
          rw [zpow_add₀ two_ne_zero, Nat.cast_one, div_one, Nat.cast_mul]
          ring
        _ ≤ ((1 + 1 / 2 ^ 53) * n) * ((1 + 1 / 2 ^ 53) * 10 ^ k) := by gcongr
        _ = (1 + 1 / 2 ^ 53) ^ 2 * (n * 10 ^ k) := by ring
        _ ≤ (1 + 1 / 2 ^ 53) ^ 2 * ((2 ^ 53 - 7 / 2) * 2 ^ (971 : Int)) := by gcongr
        _ = (1 + 1 / 2 ^ 53) ^ 2 * (2 ^ 53 - 7 / 2) * 2 ^ (971 : Int) := by ring
        _ < (2 ^ 53 - 1 / 2) * 2 ^ (971 : Int) := by
          gcongr
          norm_num

end Binary64

/-! ## Significand and power -/

namespace NumberText

/-- The number that a row of digits after a significand stands for. -/
theorem le_foldl_digits (significand : Nat) (ds : List Char) :
    significand * 10 ^ ds.length ≤ ds.foldl (fun n d => 10 * n + digitValue d) significand := by
  induction ds generalizing significand with
  | nil => simp
  | cons d ds ih =>
    calc significand * 10 ^ (ds.length + 1) = 10 * significand * 10 ^ ds.length := by ring
      _ ≤ (10 * significand + digitValue d) * 10 ^ ds.length := by gcongr; omega
      _ ≤ _ := ih _

/-- Digits that are not taken make the number smaller. -/
theorem takeFraction_spec (significand : Nat) (ds : List Char) :
    (takeFraction significand ds).2 ≤ ds.length ∧
      (takeFraction significand ds).1 * 10 ^ (ds.length - (takeFraction significand ds).2) ≤
        ds.foldl (fun n d => 10 * n + digitValue d) significand := by
  induction ds generalizing significand with
  | nil => simp [takeFraction]
  | cons d ds ih =>
    rw [takeFraction]
    split
    · exact ⟨Nat.zero_le _, le_foldl_digits significand (d :: ds)⟩
    · obtain ⟨hle, hvalue⟩ := ih (10 * significand + digitValue d)
      refine ⟨Nat.succ_le_succ hle, ?_⟩
      simp only [List.length_cons, Nat.add_sub_add_right]
      exact hvalue

/-- The same at the power of ten that belongs to the digits taken. -/
theorem takeFraction_scaled_le (d : Char) (ds : List Char) (first : Int) :
    ((takeFraction (digitValue d) ds).1 : ℚ) *
        10 ^ (first - (takeFraction (digitValue d) ds).2 : Int) ≤
      digitsValue (d :: ds) * 10 ^ (first - ds.length : Int) := by
  obtain ⟨hle, hvalue⟩ := takeFraction_spec (digitValue d) ds
  generalize takeFraction (digitValue d) ds = taken at hle hvalue ⊢
  have hdigits : digitsValue (d :: ds) =
      ds.foldl (fun n c => 10 * n + digitValue c) (digitValue d) := by
    simp [digitsValue]
  have hcast : (taken.1 : ℚ) * 10 ^ (ds.length - taken.2) ≤ digitsValue (d :: ds) := by
    rw [hdigits]
    exact_mod_cast hvalue
  have hsplit : (10 : ℚ) ^ (first - taken.2 : Int) =
      10 ^ (ds.length - taken.2) * 10 ^ (first - ds.length : Int) := by
    rw [← zpow_natCast, ← zpow_add₀ (by norm_num)]
    congr 1
    omega
  rw [hsplit, ← mul_assoc]
  gcongr

theorem digitValue_le {c : Char} (h : c.isDigit = true) : digitValue c ≤ 9 := by
  rw [Char.isDigit_iff_toNat] at h
  change '0'.toNat ≤ c.toNat ∧ c.toNat ≤ '9'.toNat at h
  have hnine : '9'.toNat = '0'.toNat + 9 := by decide
  rw [digitValue]
  omega

/-- A whole part of eighteen digits is not cut off, and leaves room for one more digit. -/
theorem takeWhole_short {ds : List Char} (hds : ∀ c ∈ ds, c.isDigit = true)
    (hlength : ds.length ≤ 18) : (takeWhole 0 ds).2 = 0 ∧ (takeWhole 0 ds).1 < 10 ^ 18 := by
  have hall : ∀ (significand n : Nat) (ds : List Char), (∀ c ∈ ds, c.isDigit = true) →
      significand < 10 ^ n → ds.length + n ≤ 18 →
      (takeWhole significand ds).2 = 0 ∧ (takeWhole significand ds).1 < 10 ^ 18 := by
    intro significand n ds
    induction ds generalizing significand n with
    | nil =>
      intro _ hlt hle
      exact ⟨rfl, hlt.trans_le (Nat.pow_le_pow_right (by norm_num) (by simpa using hle))⟩
    | cons d ds ih =>
      intro hds hlt hle
      rw [List.forall_mem_cons] at hds
      simp only [List.length_cons] at hle
      have hdigit := digitValue_le hds.1
      have hnext : 10 * significand + digitValue d < 10 ^ (n + 1) := by
        rw [Nat.pow_succ]
        omega
      have hmax : 10 ^ (n + 1) ≤ 10 ^ 18 := Nat.pow_le_pow_right (by norm_num) (by omega)
      rw [takeWhole, if_neg (by simp only [Word64.max, Word64.count]; omega)]
      exact ih _ (n + 1) hds.2 hnext (by omega)
  exact hall 0 0 ds hds (by norm_num) (by omega)

theorem takeFraction_pos {significand : Nat} (h : significand < 10 ^ 18) {ds : List Char}
    (hds : IsDigits ds) : 0 < (takeFraction significand ds).2 := by
  obtain ⟨d, ds, rfl⟩ := List.exists_cons_of_ne_nil hds.1
  have hdigit := digitValue_le (hds.2 d List.mem_cons_self)
  rw [takeFraction, if_neg (by simp only [Word64.max, Word64.count]; omega)]
  exact Nat.succ_pos _

theorem isSome_scale?_of_neg {significand : Nat} {power : Int} (h : power < 0) :
    (scale? significand power).isSome = true := by
  rw [scale?, if_pos h]
  rfl

/-- A decimal well within the range has a binary number. -/
theorem isSome_scale? {significand : Nat} (hmax : significand ≤ Word64.max) {power : Int}
    (h : (significand : ℚ) * 10 ^ power ≤ (2 ^ 53 - 7 / 2) * 2 ^ (971 : Int)) :
    (scale? significand power).isSome = true := by
  rw [scale?]
  split
  · rfl
  · next hneg =>
    obtain ⟨k, rfl⟩ := Int.eq_ofNat_of_zero_le (not_lt.mp hneg)
    split
    · rfl
    · next hzero =>
      have hpos : 0 < significand := Nat.pos_of_ne_zero hzero
      have hk : k < maxPower + 1 := by
        have hfirst := @Binary64.first_lt_of_le_end significand 0 hpos k h
        simp only [maxPower]
        omega
      rw [zpow_natCast] at h
      rw [if_neg (by omega)]
      simp only [Int.toNat_natCast]
      rw [Binary64.isInfinite_mul_powerOfTen hpos hmax hk h]
      rfl

/-- A decimal with a point and no power of ten has a binary number: the digit after the point is
taken, so the power is negative. -/
theorem isSome_float?_of_point {t : NumberText} (hwhole : ∀ c ∈ t.whole, c.isDigit = true)
    (hlength : t.whole.length ≤ 18) {ds : List Char} (hfraction : t.fraction = some ds)
    (hds : IsDigits ds) (hexponent : t.exponent = none) : t.float?.isSome = true := by
  obtain ⟨hdropped, hlt⟩ := takeWhole_short hwhole hlength
  have htaken := takeFraction_pos hlt hds
  unfold NumberText.float?
  simp only [hexponent, hfraction, Option.getD_some, hdropped, Option.isSome_map]
  exact isSome_scale?_of_neg (by omega)

/-- A decimal with a power of ten has a binary number if it is well within the range. -/
theorem isSome_float?_of_power {t : NumberText} {d : Char} (hd : d.isDigit = true)
    (hwhole : t.whole = [d]) {first : Int}
    (hexponent : t.exponent = some (decide (first < 0), Nat.toDigits 10 first.natAbs))
    (hfirst : first ≤ maxExponent)
    (h : (digitsValue (d :: t.fraction.getD []) : ℚ) *
      10 ^ (first - (t.fraction.getD []).length : Int) ≤ (2 ^ 53 - 7 / 2) * 2 ^ (971 : Int)) :
    t.float?.isSome = true := by
  have hdigit := digitValue_le hd
  have hone : takeWhole 0 t.whole = (digitValue d, 0) := by
    rw [hwhole, takeWhole, if_neg (by simp only [Word64.max, Word64.count]; omega)]
    simp [takeWhole]
  have hmax := @takeFraction_le (digitValue d) (t.fraction.getD [])
    (by simp only [Word64.max, Word64.count]; omega)
  have hscaled := (takeFraction_scaled_le d (t.fraction.getD []) first).trans h
  generalize htaken : takeFraction (digitValue d) (t.fraction.getD []) = taken at hmax hscaled
  unfold NumberText.float?
  simp only [hexponent, hone, htaken, digitsValue_toDigits, Option.isSome_map]
  split
  · next hover =>
    rw [if_pos]
    · rfl
    · have hneg : first < 0 := by omega
      simp [hneg]
  · have hpower : (if decide (first < 0) = true then ((0 : Nat) : Int) - taken.2 - first.natAbs
        else ((0 : Nat) : Int) - taken.2 + first.natAbs) = first - taken.2 := by
      by_cases hneg : first < 0
      · simp only [hneg, decide_true, if_true]
        omega
      · simp only [hneg, decide_false, Bool.false_eq_true, if_false]
        omega
    rw [hpower]
    exact isSome_scale? hmax hscaled

end NumberText

/-- Every layout of a decimal well within the range has a binary number. -/
theorem isSome_float?_parts (negative : Bool) {q : Nat} (hq : 0 < q) {k : Int}
    (h : (q : ℚ) * 10 ^ k ≤ (2 ^ 53 - 7 / 2) * 2 ^ (971 : Int)) :
    (Json.floatLayout.parts negative (Nat.toDigits 10 q) k).float?.isSome = true := by
  have hform := Json.floatLayout.wellFormed_parts negative (k := k) (.inl hq)
  have hpow := (Binary64.length_toDigits hq).1
  have hdigits := digitsValue_toDigits q
  have hdigit := @isDigit_toDigits q
  obtain ⟨d, ds, hds⟩ := List.exists_cons_of_ne_nil (@Nat.toDigits_ne_nil q 10)
  rw [hds] at hform hpow hdigits hdigit ⊢
  simp only [List.length_cons, Nat.add_sub_cancel] at hpow
  unfold FloatLayout.parts at hform ⊢
  simp only [Json.floatLayout, List.length_cons] at hform ⊢
  split at hform
  · next hrange =>
    rw [if_pos hrange]
    split at hform
    · next hk =>
      rw [if_pos hk]
      refine NumberText.isSome_float?_of_point hform.whole.2 ?_ rfl (hform.fraction _ rfl) rfl
      simp only [List.length_append, List.length_cons, List.length_replicate]
      omega
    · next hk =>
      rw [if_neg hk]
      split at hform
      · next hfirst =>
        rw [if_pos hfirst]
        refine NumberText.isSome_float?_of_point hform.whole.2 ?_ rfl (hform.fraction _ rfl) rfl
        exact (List.length_take_le _ _).trans (by omega)
      · next hfirst =>
        rw [if_neg hfirst]
        exact NumberText.isSome_float?_of_point hform.whole.2 (by simp) rfl
          (hform.fraction _ rfl) rfl
  · next hrange =>
    rw [if_neg hrange]
    have hfraction :
        (if ds.length + 1 ≤ 1 then none else some ((d :: ds).drop 1)).getD [] = ds := by
      split
      · next hshort =>
        have hnil : ds = [] := List.length_eq_zero_iff.mp (by omega)
        rw [hnil]
        rfl
      · rfl
    have hfirst := Binary64.first_lt_of_le_end hpow h
    refine NumberText.isSome_float?_of_power (hdigit d List.mem_cons_self) rfl rfl ?_ ?_
    · simp only [NumberText.maxExponent]
      push_cast
      omega
    · simp only [hfraction, hdigits]
      refine le_trans (le_of_eq ?_) h
      congr 2
      push_cast
      omega

namespace Binary64

/-- The last three numbers of the range, whose decimals are multiplied out. -/
theorem isSome_float?_last : ∀ i < 3, ∀ negative,
    (Json.floatLayout.parts negative (Nat.toDigits 10 (shortest (2 * minMantissa - 3 + i) 971).1)
      (shortest (2 * minMantissa - 3 + i) 971).2).float?.isSome = true := by
  decide +kernel

/-- Before them, all that rounds to a number is well within the range. -/
theorem upper_le_end {m : Nat} {e : Int} (hc : Canonical m e)
    (hlast : ¬(e = 971 ∧ 2 * minMantissa - 3 ≤ m)) :
    (4 * m + 2 : ℚ) / 4 * 2 ^ e ≤ (2 ^ 53 - 7 / 2) * 2 ^ (971 : Int) := by
  have hlt := hc.lt
  have hmax := hc.le_maxExponent
  have hmin : (2 * minMantissa : Nat) = 2 ^ 53 := by decide
  simp only [maxExponent] at hmax
  rcases Int.lt_or_le e 971 with hless | hge
  · have hm : (m : ℚ) + 1 ≤ 2 ^ 53 := by
      rw [hmin] at hlt
      exact_mod_cast hlt
    have hunit : (2 : ℚ) ^ (971 : Int) = 2 * 2 ^ (970 : Int) := by
      rw [← zpow_one_add₀ two_ne_zero]
      norm_num
    calc (4 * m + 2 : ℚ) / 4 * 2 ^ e ≤ (2 ^ 53 - 1 / 2) * 2 ^ (970 : Int) := by
          gcongr
          · linarith
          · norm_num
          · omega
      _ ≤ (2 ^ 53 - 7 / 2) * 2 ^ (971 : Int) := by
        rw [hunit]
        have hunitPos : (0 : ℚ) < 2 ^ (970 : Int) := by positivity
        generalize (2 : ℚ) ^ (970 : Int) = unit at hunitPos
        nlinarith
  · have he : e = 971 := by omega
    have hm : (m : ℚ) + 4 ≤ 2 ^ 53 := by
      have hnat : m + 4 ≤ 2 ^ 53 := by omega
      exact_mod_cast hnat
    rw [he]
    gcongr
    linarith

theorem shortest_pos {m : Nat} {e : Int} (hc : Canonical m e) (hm : 0 < m) :
    0 < (shortest m e).1 := by
  have hpos := (roundsTo_shortest hc hm).pos hm
  rcases Nat.eq_zero_or_pos (shortest m e).1 with hzero | hq
  · rw [hzero] at hpos
    norm_num at hpos
  · exact hq

/-- The decimal that is written for a number of the format has a binary number. -/
theorem isSome_float?_shortest {m : Nat} {e : Int} (hc : Canonical m e) (hm : 0 < m)
    (negative : Bool) :
    (Json.floatLayout.parts negative (Nat.toDigits 10 (shortest m e).1)
      (shortest m e).2).float?.isSome = true := by
  have hlt := hc.lt
  by_cases hlast : e = 971 ∧ 2 * minMantissa - 3 ≤ m
  · obtain ⟨rfl, hge⟩ := hlast
    have hi := isSome_float?_last (m - (2 * minMantissa - 3)) (by omega) negative
    rwa [Nat.add_sub_cancel' hge] at hi
  · have hupper := (roundsTo_shortest hc hm).bounds.2
    exact isSome_float?_parts negative (shortest_pos hc hm)
      (hupper.trans (upper_le_end hc hlast))

end Binary64

/-! ## Numbers -/

/-- A layout always has a point or a power of ten, so no integer is read. -/
theorem FloatLayout.value?_parts (layout : FloatLayout) (negative : Bool) (digits : List Char)
    (power : Int) :
    (layout.parts negative digits power).value? =
      (layout.parts negative digits power).float?.map .float := by
  unfold FloatLayout.parts
  simp only
  split
  · split
    · rfl
    · split <;> rfl
  · unfold NumberText.value?
    simp only
    split
    · next hexponent => cases hexponent
    · rfl

/-- What a number is read as: an integer as itself, a binary number as a binary number. -/
inductive Number.ReadsAs : Number → Number → Prop
  | integer (n : Int) : ReadsAs (.integer n) (.integer n)
  | float (x y : Binary64) : ReadsAs (.float x) (.float y)

/-- The number is the value of the parts, and is written like them. -/
structure Number.SplitsInto (n : Number) (t : NumberText) (n' : Number) : Prop where
  text : n.text.toList = t.written
  wellFormed : t.WellFormed
  value : t.value? = some n'

theorem splitsInto_integer {n : Int} (hlow : -Word64.signedCount ≤ n) (hhigh : n < Word64.count) :
    (Number.integer n).SplitsInto ⟨decide (n < 0), Nat.toDigits 10 n.natAbs, none, none⟩
      (.integer n) where
  text := by
    rw [Number.text, BindValue.toList_integerText]
    by_cases h : n < 0 <;> simp [NumberText.written, NumberText.fractionText,
      NumberText.exponentText, h]
  wellFormed := by
    refine ⟨⟨Nat.toDigits_ne_nil, isDigit_toDigits⟩, fun hzero => ?_, by simp, by simp⟩
    rcases Nat.eq_zero_or_pos n.natAbs with hn | hn
    · simp [hn]
    · exact absurd hzero (head?_toDigits hn)
  value := by
    unfold NumberText.value?
    simp only [digitsValue_toDigits]
    by_cases h : n < 0
    · simp only [h, decide_true, if_true]
      rw [if_pos (by omega)]
      congr 2
      omega
    · simp only [h, decide_false, Bool.false_eq_true, if_false]
      rw [if_pos (by simp only [Word64.max]; omega)]
      congr 2
      omega

theorem exists_splitsInto_float {m : Nat} {e : Int} (hc : Binary64.Canonical m e)
    (negative : Bool) :
    ∃ t y, (Number.float (.finite negative m e)).SplitsInto t (.float y) := by
  obtain ⟨q, k, hshortest, hform, hsome⟩ : ∃ q k,
      (if m = 0 then (0, 0) else Binary64.shortest m e) = (q, k) ∧ (0 < q ∨ k = 0) ∧
      (Json.floatLayout.parts negative (Nat.toDigits 10 q) k).float?.isSome = true := by
    rcases Nat.eq_zero_or_pos m with rfl | hm
    · refine ⟨0, 0, rfl, .inr rfl, ?_⟩
      cases negative <;> decide +kernel
    · exact ⟨_, _, if_neg hm.ne', .inl (Binary64.shortest_pos hc hm),
        Binary64.isSome_float?_shortest hc hm negative⟩
  obtain ⟨y, hy⟩ := Option.isSome_iff_exists.mp hsome
  refine ⟨_, y, ⟨?_, Json.floatLayout.wellFormed_parts negative hform, ?_⟩⟩
  · rw [FloatLayout.written_parts, Number.text, Binary64.text]
    simp only [hshortest, String.toList_ofList]
  · rw [FloatLayout.value?_parts, hy]
    rfl

/-- Every number that is written can be read, wherever it ends. -/
theorem Number.exists_scan? {n : Number} (h : n.Representable) :
    ∃ n', n.ReadsAs n' ∧ ∀ rest : List Char,
      rest.head?.all (fun c => !NumberText.isContinuing c) = true →
      ∃ t, NumberText.scan? (n.text.toList ++ rest) = some (t, rest) ∧ t.value? = some n' := by
  obtain ⟨t, n', hreads, hsplits⟩ : ∃ t n', n.ReadsAs n' ∧ n.SplitsInto t n' := by
    match n, h with
    | .integer n, h => exact ⟨_, _, .integer n, splitsInto_integer h.1 h.2⟩
    | .float (.finite negative m e), h =>
      obtain ⟨t, y, hsplits⟩ := exists_splitsInto_float h negative
      exact ⟨t, _, .float _ y, hsplits⟩
  refine ⟨n', hreads, fun rest hrest => ⟨t, ?_, hsplits.value⟩⟩
  rw [hsplits.text]
  exact NumberText.scan?_written hsplits.wellFormed hrest

end QuerySql
