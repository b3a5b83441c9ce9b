import QuerySql.Json.Printer
import QuerySql.Proofs.BoundValues
import QuerySql.Proofs.Characters
import QuerySql.Proofs.Rounding

/-!
# Numbers are read back as they were written

A number is written in decimal and read again where its value is bound. An integer of 64 bits is
read as itself. A binary number is written with so many digits that the decimal rounds to it, in
one of four layouts, and all four are read as that decimal.

* `BindValue.ofLexical_integerText`: an integer is read back.
* `FloatLayout.spells_decimal`: every layout of a decimal has its value.
* `BindValue.ofLexical_text`: a binary number is read back.
* `Number.ofLexical_text`: so is every number of a kind that is read, `Number.Representable`.
-/

namespace QuerySql

/-! ## Rows of digits -/

theorem digitsValue_toDigits (n : Nat) : digitsValue (Nat.toDigits 10 n) = n :=
  Nat.ofDigitChars_ten_toDigits

theorem digitsValue_append_zeros (ds : List Char) (n : Nat) :
    digitsValue (ds ++ List.replicate n '0') = 10 ^ n * digitsValue ds := by
  rw [digitsValue, List.foldl_append]
  exact Nat.ofDigitChars_replicate_zero

theorem digitsValue_zeros_append (ds : List Char) (n : Nat) :
    digitsValue (List.replicate n '0' ++ ds) = digitsValue ds := by
  have hzeros : digitsValue (List.replicate n '0') = 0 := by
    simpa [digitsValue] using digitsValue_append_zeros [] n
  rw [digitsValue, List.foldl_append]
  exact congrArg (fun start => ds.foldl _ start) hzeros

theorem isDigit_toDigits {n : Nat} : ∀ c ∈ Nat.toDigits 10 n, c.isDigit = true :=
  fun _ h => Nat.isDigit_of_mem_toDigits (by decide) (by decide) h

theorem isDigit_replicate_zero {n : Nat} : ∀ c ∈ List.replicate n '0', c.isDigit = true := by
  intro c hc
  rw [List.eq_of_mem_replicate hc]
  decide

theorem toLower_of_isDigit {c : Char} (h : c.isDigit = true) : c.toLower = c := by
  rw [Char.isDigit_iff_toNat] at h
  change '0'.toNat ≤ c.val.toNat ∧ c.val.toNat ≤ '9'.toNat at h
  have hnine : '9'.toNat < 'A'.val.toNat := by decide
  unfold Char.toLower
  rw [dif_neg]
  rintro ⟨hupper, -⟩
  have hle := UInt32.le_iff_toNat_le.mp hupper
  omega

namespace BindValue

theorem digits?_eq_some {ds : List Char} (hne : ds ≠ []) (hd : ∀ c ∈ ds, c.isDigit = true) :
    digits? ds = some (digitsValue ds) := by
  have hempty : ds.isEmpty = false := by simpa using hne
  have hall : ds.all Char.isDigit = true := List.all_eq_true.mpr hd
  simp [digits?, hempty, hall]

theorem digits?_toDigits (n : Nat) : digits? (Nat.toDigits 10 n) = some n := by
  rw [digits?_eq_some Nat.toDigits_ne_nil isDigit_toDigits, digitsValue_toDigits]

theorem digits?_eq_none {ds : List Char} {c : Char} (hc : c ∈ ds) (h : c.isDigit = false) :
    digits? ds = none := by
  have hall : ds.all Char.isDigit = false := List.all_eq_false.mpr ⟨c, hc, by simp [h]⟩
  simp [digits?, hall]

/-! ## Signs -/

/-- A number starts with a digit, before which a minus may stand. -/
theorem scanSign_signed (negative : Bool) {c : Char} (hc : c.isDigit = true) (cs : List Char) :
    NumberText.scanSign (if negative then '-' :: c :: cs else c :: cs) = (negative, c :: cs) := by
  cases negative with
  | true => rfl
  | false =>
    have hminus : c ≠ '-' := by rintro rfl; revert hc; decide
    have hplus : c ≠ '+' := by rintro rfl; revert hc; decide
    simp only [Bool.false_eq_true, if_false]
    unfold NumberText.scanSign
    split
    · next heq => exact absurd (List.cons.inj heq).1 hminus
    · next heq => exact absurd (List.cons.inj heq).1 hplus
    · rfl

/-- Such a text is neither in quotes nor a word. -/
theorem ofLexical_signed (negative : Bool) {c : Char} (hc : c.isDigit = true) (cs : List Char)
    {lexical : String} (h : lexical.toList = if negative then '-' :: c :: cs else c :: cs) :
    ofLexical lexical =
      match signed? lexical.toList, unsigned? lexical.toList, otherNumber? lexical.toList with
      | some n, _, _ => .integer n
      | none, some n, _ => .unsigned n
      | none, none, some x => .float x
      | none, none, none => .string lexical := by
  have hmem : c ∈ lexical.toList := by cases negative <;> simp [h]
  have hquote : unquote? lexical.toList = none := by
    have hc' : c ≠ '\x27' := by rintro rfl; revert hc; decide
    rw [h]
    unfold unquote?
    split
    · next heq => cases negative <;> simp at heq; exact absurd heq.1 hc'
    · rfl
  have hword : ∀ word : List Char, (∀ d ∈ word, d.isDigit = false) →
      isWord word lexical.toList = false := by
    intro word hw
    rw [isWord, beq_eq_false_iff_ne]
    rintro rfl
    have hd := hw c.toLower (List.mem_map_of_mem hmem)
    rw [toLower_of_isDigit hc, hc] at hd
    cases hd
  unfold ofLexical
  simp only [hquote]
  rw [hword _ (by decide), hword _ (by decide)]
  rfl

/-! ## Integers -/

theorem toList_integerText (n : Int) :
    (integerText n).toList =
      if n < 0 then '-' :: Nat.toDigits 10 n.natAbs else Nat.toDigits 10 n.natAbs := by
  unfold integerText
  split
  · rw [String.toList_append, Nat.toList_repr]
    rfl
  · exact Nat.toList_repr

/-- The value that is bound for an integer. -/
def ofInteger (n : Int) : BindValue :=
  if n < Word64.signedCount then .integer n else .unsigned n.toNat

/-- An integer of a 64-bit word, signed or not, is read back. -/
theorem ofLexical_integerText {n : Int} (hlow : -Word64.signedCount ≤ n)
    (hhigh : n < Word64.count) : ofLexical (integerText n) = ofInteger n := by
  obtain ⟨d, ds, hds⟩ := List.exists_cons_of_ne_nil (@Nat.toDigits_ne_nil n.natAbs 10)
  have hd : d.isDigit = true := @isDigit_toDigits n.natAbs d (by simp [hds])
  have htext : (integerText n).toList =
      if decide (n < 0) then '-' :: d :: ds else d :: ds := by
    rw [toList_integerText, hds]
    by_cases h : n < 0 <;> simp [h]
  have hdigits : digits? (d :: ds) = some n.natAbs := by rw [← hds, digits?_toDigits]
  have hsigned : signed? (integerText n).toList = Word64.signed? (decide (n < 0)) n.natAbs := by
    rw [htext, signed?, scanSign_signed _ hd]
    simp [hdigits]
  rw [ofLexical_signed _ hd ds htext, hsigned]
  unfold ofInteger
  split_ifs with h
  · have hword : Word64.signed? (decide (n < 0)) n.natAbs = some n := by
      unfold Word64.signed?
      by_cases hneg : n < 0
      · simp only [hneg, decide_true, if_true]
        rw [if_pos (by omega)]
        congr 1
        omega
      · simp only [hneg, decide_false, Bool.false_eq_true, if_false]
        rw [if_pos (by omega)]
        congr 1
        omega
    simp [hword]
  · have hneg : ¬ n < 0 := by omega
    have hword : Word64.signed? (decide (n < 0)) n.natAbs = none := by
      simp only [Word64.signed?, hneg, decide_false, Bool.false_eq_true, if_false]
      rw [if_neg (by omega)]
    have hunsigned : unsigned? (integerText n).toList = some n.toNat := by
      have hplus : d ≠ '+' := by rintro rfl; revert hd; decide
      rw [htext]
      simp only [hneg, decide_false, Bool.false_eq_true, if_false]
      unfold unsigned?
      split
      · next heq => exact absurd (List.cons.inj heq).1 hplus
      · simp only [hdigits, Option.bind_eq_bind, Option.bind_some, Word64.unsigned?]
        rw [if_pos (by omega)]
        congr 1
        omega
    simp [hword, hunsigned]

theorem ofLexical_repr {n : Nat} (h : n < Word64.count) :
    ofLexical (Nat.repr n) = ofInteger n := by
  have htext : integerText n = Nat.repr n := by simp [integerText]
  rw [← htext]
  exact ofLexical_integerText (by omega) (by exact_mod_cast h)

/-! ## Decimals -/

/-- The characters of a decimal. -/
def isDecimalChar (c : Char) : Bool :=
  c.isDigit || c = '-' || c = '+' || c = '.' || c = 'e' || c = 'E'

/-- The text is the decimal `coefficient * 10 ^ exponent`, with a point or a power of ten, and can
take a minus. -/
structure Spells (cs : List Char) (coefficient : Nat) (exponent : Int) : Prop where
  head : ∃ c rest, cs = c :: rest ∧ c.isDigit = true
  decimal : ∀ c ∈ cs, isDecimalChar c = true
  fractional : ∃ c ∈ cs, c.isDigit = false
  read (negative : Bool) :
    float? (if negative then '-' :: cs else cs) = some (.ofDecimal negative coefficient exponent)

/-- A decimal is bound as the nearest binary number, and not as an integer. -/
theorem Spells.ofLexical_eq {cs : List Char} {coefficient : Nat} {exponent : Int}
    (h : Spells cs coefficient exponent) (negative : Bool) :
    ofLexical (String.ofList (if negative then '-' :: cs else cs)) =
      .float (.ofDecimal negative coefficient exponent) := by
  obtain ⟨c, rest, rfl, hc⟩ := h.head
  obtain ⟨d, hd, hdigit⟩ := h.fractional
  have hplus : c ≠ '+' := by rintro rfl; revert hc; decide
  have hsigned : signed? (if negative then '-' :: c :: rest else c :: rest) = none := by
    rw [signed?, scanSign_signed _ hc]
    simp [digits?_eq_none hd hdigit]
  have hunsigned : unsigned? (if negative then '-' :: c :: rest else c :: rest) = none := by
    unfold unsigned?
    split
    · next heq => cases negative <;> simp at heq; exact absurd heq.1 hplus
    · have hmem : d ∈ (if negative then '-' :: c :: rest else c :: rest) := by
        cases negative with
        | true => exact List.mem_cons_of_mem _ hd
        | false => exact hd
      simp [digits?_eq_none hmem hdigit]
  have hnumeric : isNumeric (if negative then '-' :: c :: rest else c :: rest) = true := by
    have hall : (c :: rest).all isDecimalChar = true := List.all_eq_true.mpr h.decimal
    cases negative with
    | true => simpa [isNumeric, isDecimalChar, hc] using hall
    | false => simpa [isNumeric, isDecimalChar, hc] using hall
  rw [ofLexical_signed negative hc rest String.toList_ofList, String.toList_ofList, hsigned,
    hunsigned, otherNumber?, if_pos hnumeric, h.read negative]

/-- Digits, a point, digits, and possibly a power of ten. -/
theorem spells_point {whole fraction tail : List Char} {x : Int} (hne : whole ≠ [])
    (hwhole : ∀ c ∈ whole, c.isDigit = true) (hfraction : ∀ c ∈ fraction, c.isDigit = true)
    (htail : ∀ c ∈ tail, isDecimalChar c = true) (hstart : tail.takeWhile Char.isDigit = [])
    (hx : exponent? tail = some x) :
    Spells (whole ++ '.' :: (fraction ++ tail)) (digitsValue (whole ++ fraction))
      (x - fraction.length) := by
  obtain ⟨c, rest, rfl⟩ := List.exists_cons_of_ne_nil hne
  have hc := hwhole c List.mem_cons_self
  have htake : (fraction ++ tail).takeWhile Char.isDigit = fraction := by
    rw [List.takeWhile_append_of_pos hfraction, hstart, List.append_nil]
  have hdrop : (fraction ++ tail).dropWhile Char.isDigit = tail := by
    have happend := @List.takeWhile_append_dropWhile _ Char.isDigit tail
    rw [List.dropWhile_append_of_pos hfraction]
    rwa [hstart, List.nil_append] at happend
  refine ⟨⟨c, _, rfl, hc⟩, ?_, ⟨'.', by simp, by decide⟩, fun negative => ?_⟩
  · intro d hd
    rcases List.mem_append.mp hd with hd | hd
    · simp [isDecimalChar, hwhole d hd]
    rcases List.mem_cons.mp hd with rfl | hd
    · decide
    rcases List.mem_append.mp hd with hd | hd
    · simp [isDecimalChar, hfraction d hd]
    · exact htail d hd
  · unfold float?
    rw [List.cons_append, scanSign_signed negative hc, ← List.cons_append]
    simp only [List.takeWhile_append_of_pos hwhole, List.dropWhile_append_of_pos hwhole,
      List.takeWhile_cons, List.dropWhile_cons]
    simp [htake, hdrop, hx]

/-- Digits and a power of ten. -/
theorem spells_power {whole tail : List Char} {x : Int} (hne : whole ≠ [])
    (hwhole : ∀ c ∈ whole, c.isDigit = true) (htail : ∀ c ∈ tail, isDecimalChar c = true)
    (hx : exponent? ('e' :: tail) = some x) :
    Spells (whole ++ 'e' :: tail) (digitsValue whole) x := by
  obtain ⟨c, rest, rfl⟩ := List.exists_cons_of_ne_nil hne
  have hc := hwhole c List.mem_cons_self
  refine ⟨⟨c, _, rfl, hc⟩, ?_, ⟨'e', by simp, by decide⟩, fun negative => ?_⟩
  · intro d hd
    rcases List.mem_append.mp hd with hd | hd
    · simp [isDecimalChar, hwhole d hd]
    rcases List.mem_cons.mp hd with rfl | hd
    · decide
    · exact htail d hd
  · unfold float?
    rw [List.cons_append, scanSign_signed negative hc, ← List.cons_append]
    simp only [List.takeWhile_append_of_pos hwhole, List.dropWhile_append_of_pos hwhole,
      List.takeWhile_cons, List.dropWhile_cons]
    simp [hx]

/-- A power of ten is written with its sign. -/
theorem exponent?_power (x : Int) :
    exponent? ('e' :: (if x < 0 then '-' else '+') :: Nat.toDigits 10 x.natAbs) = some x := by
  by_cases h : x < 0
  · simp [exponent?, NumberText.scanSign, h, digits?_toDigits, abs_of_neg h]
  · simp [exponent?, NumberText.scanSign, h, digits?_toDigits, abs_of_nonneg (not_lt.mp h)]

end BindValue

open BindValue

/-- A plain decimal without a power of ten. -/
theorem spells_plain {whole fraction : List Char} (hne : whole ≠ [])
    (hwhole : ∀ c ∈ whole, c.isDigit = true) (hfraction : ∀ c ∈ fraction, c.isDigit = true) :
    Spells (whole ++ '.' :: fraction) (digitsValue (whole ++ fraction)) (-fraction.length) := by
  have h := spells_point hne hwhole hfraction (fun c hc => absurd hc List.not_mem_nil) rfl rfl
  rwa [List.append_nil, zero_sub] at h

/-- A decimal with a power of ten, of which the first digit alone stands before the point. -/
theorem spells_scientific {ds : List Char} (hne : ds ≠ [])
    (hdigit : ∀ c ∈ ds, c.isDigit = true) (x : Int) :
    Spells (ds.take 1 ++ (if ds.length ≤ 1 then [] else '.' :: ds.drop 1) ++
        ['e', if x < 0 then '-' else '+'] ++ Nat.toDigits 10 x.natAbs)
      (digitsValue ds) (x - ds.length + 1) := by
  have hlength : 0 < ds.length := List.length_pos_iff.mpr hne
  have htake : ds.take 1 ≠ [] := by simp [hne]
  have htakeDigit : ∀ c ∈ ds.take 1, c.isDigit = true :=
    fun c hc => hdigit c (List.mem_of_mem_take hc)
  have hdropDigit : ∀ c ∈ ds.drop 1, c.isDigit = true :=
    fun c hc => hdigit c (List.mem_of_mem_drop hc)
  have hsign : isDecimalChar (if x < 0 then '-' else '+') = true := by split <;> decide
  have htail : ∀ c ∈ (if x < 0 then '-' else '+') :: Nat.toDigits 10 x.natAbs,
      isDecimalChar c = true := by
    intro c hc
    rcases List.mem_cons.mp hc with rfl | hc
    · exact hsign
    · simp [isDecimalChar, isDigit_toDigits c hc]
  split
  · next hshort =>
    have h := spells_power htake htakeDigit htail (exponent?_power x)
    rw [List.take_of_length_le hshort] at h ⊢
    have hx : x - ds.length + 1 = x := by omega
    simpa [hx] using h
  · next hlong =>
    have h := spells_point htake htakeDigit hdropDigit
      (List.forall_mem_cons.mpr ⟨by decide, htail⟩) rfl (exponent?_power x)
    rw [List.take_append_drop, List.length_drop] at h
    have hx : x - (ds.length - 1 : Nat) = x - ds.length + 1 := by omega
    rw [hx] at h
    simpa using h

/-- Every layout of a decimal has its value. -/
theorem FloatLayout.spells_decimal (layout : FloatLayout) (q : Nat) (k : Int) :
    ∃ coefficient exponent, Spells (layout.decimal (Nat.toDigits 10 q) k) coefficient exponent ∧
      (coefficient : ℚ) * 10 ^ exponent = q * 10 ^ k := by
  have hdigit := @isDigit_toDigits q
  have hne := @Nat.toDigits_ne_nil q 10
  have hvalue := digitsValue_toDigits q
  generalize Nat.toDigits 10 q = ds at hdigit hne hvalue
  have hlength : 0 < ds.length := List.length_pos_iff.mpr hne
  unfold FloatLayout.decimal
  simp only
  split
  · split
    · -- zeros up to the point
      next hk =>
      obtain ⟨n, rfl⟩ := Int.eq_ofNat_of_zero_le hk
      have hwhole : ∀ c ∈ ds ++ List.replicate n '0', c.isDigit = true := by
        intro c hc
        rcases List.mem_append.mp hc with hc | hc
        · exact hdigit c hc
        · exact isDigit_replicate_zero c hc
      have h := spells_plain (by simp [hne]) hwhole (@isDigit_replicate_zero 1)
      rw [digitsValue_append_zeros, digitsValue_append_zeros, hvalue] at h
      refine ⟨_, _, h, ?_⟩
      simp only [List.length_replicate, Nat.cast_mul, Nat.cast_pow, Nat.cast_ofNat, zpow_natCast,
        Nat.cast_one, zpow_neg_one, pow_one]
      field_simp
    · split
      · -- a point among the digits
        next hk hfirst =>
        generalize hcut : (k + ds.length - 1).toNat + 1 = cut
        have hwhole : ds.take cut ≠ [] := by
          rw [← hcut]
          simp [hne]
        have hfraction : ∀ c ∈ ds.drop cut, c.isDigit = true :=
          fun c hc => hdigit c (List.mem_of_mem_drop hc)
        have h := spells_plain hwhole (fun c hc => hdigit c (List.mem_of_mem_take hc)) hfraction
        rw [List.take_append_drop, hvalue, List.length_drop] at h
        refine ⟨_, _, h, ?_⟩
        congr 2
        omega
      · -- zeros after the point
        next hk hfirst =>
        have hfraction : ∀ c ∈ List.replicate (-(k + ds.length - 1) - 1).toNat '0' ++ ds,
            c.isDigit = true := by
          intro c hc
          rcases List.mem_append.mp hc with hc | hc
          · exact isDigit_replicate_zero c hc
          · exact hdigit c hc
        have h := spells_plain (by simp) (@isDigit_replicate_zero 1) hfraction
        rw [digitsValue_zeros_append, digitsValue_zeros_append, hvalue, List.length_append,
          List.length_replicate] at h
        refine ⟨_, _, h, ?_⟩
        congr 2
        omega
  · refine ⟨_, _, spells_scientific hne hdigit _, ?_⟩
    rw [hvalue]
    congr 2
    omega

/-- A number of the format is read back from the decimal that is written for it. -/
theorem BindValue.ofLexical_text {m : Nat} {e : Int} (hc : Binary64.Canonical m e)
    (negative : Bool) :
    ofLexical (Binary64.text (.finite negative m e)) = .float (.finite negative m e) := by
  rcases Nat.eq_zero_or_pos m with rfl | hm
  · -- zero has one exponent, so it does not matter how many zeros are written
    obtain ⟨coefficient, exponent, hspells, hvalue⟩ := Json.floatLayout.spells_decimal 0 0
    have hpow : (10 : ℚ) ^ exponent ≠ 0 := by positivity
    have hcoefficient : coefficient = 0 := by simpa [hpow] using hvalue
    have he : e = Binary64.minExponent := hc.normal.resolve_left (by decide)
    simp only [Binary64.text, if_true]
    rw [hspells.ofLexical_eq negative, hcoefficient, he]
    simp [Binary64.ofDecimal]
  · obtain ⟨coefficient, exponent, hspells, hvalue⟩ := Json.floatLayout.spells_decimal
      (Binary64.shortest m e).1 (Binary64.shortest m e).2
    have hrounds := Binary64.roundsTo_shortest hc hm
    rw [← hvalue] at hrounds
    simp only [Binary64.text, hm.ne', if_false]
    rw [hspells.ofLexical_eq negative, Binary64.ofDecimal_eq hc hm hrounds]

/-! ## Numbers -/

/-- The number is of a kind that is read: an integer of a 64-bit word, signed or not, or a finite
binary number. -/
def Number.Representable : Number → Prop
  | .integer n => -Word64.signedCount ≤ n ∧ n < Word64.count
  | .float (.finite _ m e) => Binary64.Canonical m e
  | .float (.infinite _) => False

instance : DecidablePred Number.Representable
  | .integer n => inferInstanceAs (Decidable (-Word64.signedCount ≤ n ∧ n < Word64.count))
  | .float (.finite _ m e) => inferInstanceAs (Decidable (Binary64.Canonical m e))
  | .float (.infinite _) => inferInstanceAs (Decidable False)

/-- The value bound for a number. -/
def Number.bindValue : Number → BindValue
  | .integer n => .ofInteger n
  | .float x => .float x

/-- A number is read back from its text. -/
theorem Number.ofLexical_text {n : Number} (h : n.Representable) :
    BindValue.ofLexical n.text = n.bindValue := by
  match n, h with
  | .integer n, h => exact BindValue.ofLexical_integerText h.1 h.2
  | .float (.finite negative m e), h => exact BindValue.ofLexical_text h negative

end QuerySql
