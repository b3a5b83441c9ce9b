import QuerySql.Compile.Literal
import QuerySql.Query.Document

/-!
# Characters of written values

Which characters the text of a value can hold. Upper case neither makes nor loses a control
character or an apostrophe; the text of a number has digits and a few signs; JSON text escapes
control characters.

* `Text.count_uppercase`: upper case keeps control characters, apostrophes and parentheses.
* `Number.isNumberChar_of_mem_text`: the alphabet of numbers.
* `Compile.hasReserved_lexical`: a value without reserved characters is written without them.
-/

namespace QuerySql

/-! ## Listed characters -/

/-- A property of listed characters is decided on the list, whatever else is known of characters. -/
instance (priority := 2000) decidableForallMem (cs : List Char) (p : Char → Prop)
    [DecidablePred p] : Decidable (∀ c ∈ cs, p c) :=
  List.decidableBAll p cs

instance (priority := 2000) decidableExistsMem (cs : List Char) (p : Char → Prop)
    [DecidablePred p] : Decidable (∃ c ∈ cs, p c) :=
  List.decidableBEx p cs

/-! ## Upper case -/

namespace Text

theorem toNat_ofNat_cases (n : Nat) : (Char.ofNat n).toNat = n ∨ (Char.ofNat n).toNat = 0 := by
  by_cases h : n.isValidChar
  · left
    rw [Char.ofNat, dif_pos h]
    rfl
  · right
    rw [Char.ofNat, dif_neg h]
    rfl

theorem target_of_mem_caseRuns : ∀ r ∈ caseRuns, 0x40 ≤ r.target := by decide +kernel

theorem form_of_mem_caseExpansions : ∀ e ∈ caseExpansions, ∀ n ∈ e.2, 0x40 ≤ n := by
  decide +kernel

/-- Beyond ASCII the upper-case forms are letters. -/
theorem toNat_of_mem_upperChar {c d : Char} (hc : 128 ≤ c.toNat) (hd : d ∈ upperChar c) :
    d.toNat = 0 ∨ 0x40 ≤ d.toNat := by
  rw [upperChar, if_neg (by omega)] at hd
  split at hd
  · next form hf =>
    obtain ⟨n, hn, rfl⟩ := List.mem_map.mp hd
    obtain ⟨l₁, l₂, he, -⟩ := List.lookup_eq_some_iff.mp hf
    have hm : (c.toNat, form) ∈ caseExpansions := by rw [he]; simp
    have := form_of_mem_caseExpansions _ hm n hn
    rcases toNat_ofNat_cases n with h | h <;> omega
  · rw [List.mem_singleton] at hd
    subst hd
    cases hr : caseRuns.findSome? (·.image? c.toNat) with
    | none =>
      simp only [Option.map_none, Option.getD_none]
      omega
    | some n =>
      obtain ⟨r, hr, hi⟩ := List.exists_of_findSome?_eq_some hr
      have ht := target_of_mem_caseRuns r hr
      have hn : 0x40 ≤ n := by
        unfold CaseRun.image? at hi
        split at hi
        · simp only [Option.some.injEq] at hi
          omega
        · cases hi
      simp only [Option.map_some, Option.getD_some]
      rcases toNat_ofNat_cases n with h | h <;> omega

/-- Characters that are the upper-case form of no other character. -/
def uncased : List Char := ['\x02', '\x03', '\x27', '(', ')']

theorem toUpper_eq_of_mem_uncased :
    ∀ n < 128, ∀ z ∈ uncased, ((Char.ofNat n).toUpper = z ↔ Char.ofNat n = z) := by decide

theorem count_upperChar {z : Char} (hz : z ∈ uncased) (c : Char) :
    (upperChar c).count z = [c].count z := by
  by_cases hc : c.toNat < 128
  · have h := toUpper_eq_of_mem_uncased c.toNat hc z hz
    rw [Char.ofNat_toNat] at h
    rw [upperChar, if_pos hc]
    simp [List.count_singleton, h]
  · have hz' : z.toNat ≠ 0 ∧ z.toNat < 0x40 := by
      revert z; decide
    rw [List.count_eq_zero.mpr, List.count_eq_zero.mpr]
    · rw [List.mem_singleton]
      rintro rfl
      omega
    · intro hm
      have := toNat_of_mem_upperChar (by omega) hm
      omega

/-- Upper case keeps the control characters, apostrophes and parentheses of a text. -/
theorem count_uppercase {z : Char} (hz : z ∈ uncased) (s : String) :
    (uppercase s).toList.count z = s.toList.count z := by
  rw [uppercase, String.toList_ofList]
  induction s.toList with
  | nil => rfl
  | cons c cs ih =>
    rw [List.flatMap_cons, List.count_append, ih, count_upperChar hz, ← List.count_append]
    rfl

end Text

/-! ## Reserved characters -/

theorem hasReserved_eq_false {s : String} :
    hasReserved s = false ↔ ∀ c ∈ s.toList, isReserved c = false := by
  simp [hasReserved]

theorem hasReserved_ofList {cs : List Char} :
    hasReserved (String.ofList cs) = false ↔ ∀ c ∈ cs, isReserved c = false := by
  rw [hasReserved_eq_false, String.toList_ofList]

@[simp] theorem hasReserved_append (s t : String) :
    hasReserved (s ++ t) = (hasReserved s || hasReserved t) := by
  simp [hasReserved]

theorem hasReserved_intercalate (sep : String) {ss : List String} (hsep : hasReserved sep = false)
    (hs : ∀ s ∈ ss, hasReserved s = false) : hasReserved (sep.intercalate ss) = false := by
  induction ss with
  | nil => rw [String.intercalate_nil]; rfl
  | cons s ss ih =>
    have ih := ih fun t ht => hs t (List.mem_cons_of_mem _ ht)
    have h := hs s List.mem_cons_self
    cases ss with
    | nil => simpa using h
    | cons t ss =>
      rw [String.intercalate_cons_cons]
      simp [h, hsep, ih]

theorem hasReserved_uppercase {s : String} (h : hasReserved s = false) :
    hasReserved (Text.uppercase s) = false := by
  rw [hasReserved_eq_false] at h ⊢
  have hz : ∀ z ∈ Text.uncased, z ∉ s.toList → z ∉ (Text.uppercase s).toList := by
    intro z hz hs
    rw [← List.count_eq_zero, Text.count_uppercase hz, List.count_eq_zero]
    exact hs
  have h2 : '\x02' ∉ s.toList := fun hm => absurd (h _ hm) (by decide)
  have h3 : '\x03' ∉ s.toList := fun hm => absurd (h _ hm) (by decide)
  intro c hc
  have h2' : c ≠ '\x02' := fun e => hz _ (by decide) h2 (e ▸ hc)
  have h3' : c ≠ '\x03' := fun e => hz _ (by decide) h3 (e ▸ hc)
  simp [isReserved, h2', h3']

theorem hasReserved_quoteLiteral {s : String} (h : hasReserved s = false) :
    hasReserved (Sql.quoteLiteral s) = false := by
  rw [Sql.quoteLiteral, hasReserved_ofList]
  rw [hasReserved_eq_false] at h
  have hq : isReserved '\x27' = false := by decide
  intro c hc
  simp only [List.cons_append, List.mem_cons, List.mem_append, Text.double, List.mem_flatMap,
    List.not_mem_nil, or_false] at hc
  rcases hc with rfl | ⟨d, hd, hc⟩ | rfl
  · exact hq
  · split at hc
    · simp only [List.mem_cons, List.not_mem_nil, or_false, or_self] at hc
      exact hc ▸ hq
    · rw [List.mem_singleton] at hc
      exact hc ▸ h d hd
  · exact hq

/-! ## Numbers -/

/-- A character in the text of a number; the letters but one are those of `null`. -/
def isNumberChar (c : Char) : Bool := c.isDigit || ['-', '+', '.', 'e', 'n', 'u', 'l'].contains c

theorem isNumberChar_of_isDigit {c : Char} (h : c.isDigit = true) : isNumberChar c = true := by
  simp [isNumberChar, h]

theorem isNumberChar_of_mem_toDigits {n : Nat} {c : Char} (h : c ∈ Nat.toDigits 10 n) :
    isNumberChar c = true :=
  isNumberChar_of_isDigit (Nat.isDigit_of_mem_toDigits (by decide) (by decide) h)

theorem isNumberChar_of_mem_repr {n : Nat} {c : Char} (h : c ∈ (Nat.repr n).toList) :
    isNumberChar c = true := by
  rw [Nat.toList_repr] at h
  exact isNumberChar_of_mem_toDigits h

theorem FloatLayout.isNumberChar_of_mem_decimal (layout : FloatLayout) {ds : List Char}
    (power : Int) (hds : ∀ c ∈ ds, isNumberChar c = true) :
    ∀ c ∈ layout.decimal ds power, isNumberChar c = true := by
  have hzero : ∀ n, ∀ c ∈ List.replicate n '0', isNumberChar c = true := by
    intro n c hc
    rw [List.eq_of_mem_replicate hc]
    decide
  have htake : ∀ n, ∀ c ∈ ds.take n, isNumberChar c = true :=
    fun n c hc => hds c (List.mem_of_mem_take hc)
  have hdrop : ∀ n, ∀ c ∈ ds.drop n, isNumberChar c = true :=
    fun n c hc => hds c (List.mem_of_mem_drop hc)
  have hsigns : ∀ c ∈ ['.', '0', 'e', '+', '-'], isNumberChar c = true := by decide
  have hexp : ∀ n, ∀ c ∈ Nat.toDigits 10 n, isNumberChar c = true :=
    fun n c hc => isNumberChar_of_mem_toDigits hc
  simp only [List.forall_mem_cons] at hsigns
  obtain ⟨hpoint, h0, he, hplus, hminus, -⟩ := hsigns
  intro c hc
  unfold FloatLayout.decimal at hc
  simp only at hc
  split at hc
  · split at hc
    · simp only [List.mem_append, List.mem_cons, List.not_mem_nil, or_false] at hc
      rcases hc with (hc | hc) | rfl | rfl
      · exact hds c hc
      · exact hzero _ c hc
      · exact hpoint
      · exact h0
    · split at hc
      · simp only [List.mem_append, List.mem_cons] at hc
        rcases hc with hc | rfl | hc
        · exact htake _ c hc
        · exact hpoint
        · exact hdrop _ c hc
      · simp only [List.mem_append, List.mem_cons, List.not_mem_nil, or_false] at hc
        rcases hc with ((rfl | rfl) | hc) | hc
        · exact h0
        · exact hpoint
        · exact hzero _ c hc
        · exact hds c hc
  · simp only [List.mem_append, List.mem_cons, List.not_mem_nil, or_false] at hc
    rcases hc with ((hc | hc) | rfl | rfl) | hc
    · exact htake _ c hc
    · split at hc
      · cases hc
      · rcases List.mem_cons.mp hc with rfl | hc
        · exact hpoint
        · exact hdrop _ c hc
    · exact he
    · split
      · exact hminus
      · exact hplus
    · exact hexp _ c hc

/-- The text of a number consists of the characters of numbers. -/
theorem Number.isNumberChar_of_mem_text (n : Number) :
    ∀ c ∈ n.text.toList, isNumberChar c = true := by
  intro c hc
  cases n with
  | integer n =>
    simp only [Number.text, integerText] at hc
    split at hc
    · rw [String.toList_append, List.mem_append] at hc
      rcases hc with hc | hc
      · revert c; decide
      · exact isNumberChar_of_mem_repr hc
    · exact isNumberChar_of_mem_repr hc
  | float x =>
    cases x with
    | infinite negative =>
      simp only [Number.text, Binary64.text] at hc
      revert c; decide
    | finite negative m e =>
      simp only [Number.text, Binary64.text, String.toList_ofList] at hc
      have hd : ∀ (q : Nat) (k : Int),
          ∀ c ∈ Json.floatLayout.decimal (Nat.toDigits 10 q) k, isNumberChar c = true :=
        fun q k => Json.floatLayout.isNumberChar_of_mem_decimal k
          fun d hd => isNumberChar_of_mem_toDigits hd
      split at hc
      · rcases List.mem_cons.mp hc with rfl | hc
        · decide
        · exact hd _ _ c hc
      · exact hd _ _ c hc

theorem isNumberChar_ne {c : Char} (h : isNumberChar c = true) :
    isReserved c = false ∧ c ≠ '\x27' ∧ Text.isBlank c = false := by
  have hd : ∀ n < 128, isNumberChar (Char.ofNat n) = true →
      isReserved (Char.ofNat n) = false ∧ Char.ofNat n ≠ '\x27' ∧
        Text.isBlank (Char.ofNat n) = false := by decide
  have hlt : c.toNat < 128 := by
    simp only [isNumberChar, Bool.or_eq_true, List.contains_eq_mem, decide_eq_true_eq] at h
    rcases h with h | h
    · have : c.val ≤ 57 := by simpa using (Bool.and_eq_true_iff.mp h).2
      have hn : c.toNat ≤ 57 := this
      omega
    · revert c; decide
  simpa [Char.ofNat_toNat] using hd c.toNat hlt (by rwa [Char.ofNat_toNat])

theorem hasReserved_number (n : Number) : hasReserved n.text = false :=
  hasReserved_eq_false.mpr fun c hc => (isNumberChar_ne (n.isNumberChar_of_mem_text c hc)).1

/-! ## JSON text -/

namespace Json

theorem isReserved_of_mem_escapeChar (c : Char) : ∀ d ∈ escapeChar c, isReserved d = false := by
  by_cases hc : c.toNat < 128
  · have h : ∀ n < 128, ∀ d ∈ escapeChar (Char.ofNat n), isReserved d = false := by decide
    simpa [Char.ofNat_toNat] using h c.toNat hc
  · have hne : ∀ z : Char, z.toNat < 128 → c ≠ z := by
      rintro z hz rfl
      exact hc hz
    have h16 : ¬c.toNat < 16 := by omega
    have h32 : ¬c.toNat < 32 := by omega
    intro d hd
    simp only [escapeChar, hne '\x22' (by decide), hne '\\' (by decide), hne '\x08' (by decide),
      hne '\t' (by decide), hne '\n' (by decide), hne '\x0c' (by decide), hne '\r' (by decide),
      h16, h32, or_self, if_false, List.mem_singleton] at hd
    simp [hd, isReserved, hne '\x02' (by decide), hne '\x03' (by decide)]

theorem hasReserved_stringText (s : String) : hasReserved (stringText s) = false := by
  rw [stringText, hasReserved_ofList]
  intro c hc
  simp only [List.cons_append, List.mem_cons, List.mem_append, List.mem_flatMap,
    List.not_mem_nil, or_false] at hc
  rcases hc with rfl | ⟨d, -, hc⟩ | rfl
  · decide
  · exact isReserved_of_mem_escapeChar d c hc
  · decide

mutual

/-- JSON text never holds a reserved character: strings in it are escaped. -/
theorem hasReserved_text : (j : Json) → hasReserved j.text = false
  | .null => by decide
  | .bool b => by cases b <;> decide
  | .num n => by simpa [Json.text] using hasReserved_number n
  | .str s => by simpa [Json.text] using hasReserved_stringText s
  | .arr items => by
    have h := hasReserved_intercalate "," (by decide) (hasReserved_itemTexts items)
    simp only [Json.text, hasReserved_append, h]
    decide
  | .obj members => by
    have h := hasReserved_intercalate "," (by decide) (hasReserved_memberTexts members)
    simp only [Json.text, hasReserved_append, h]
    decide

theorem hasReserved_itemTexts : (items : List Json) →
    ∀ s ∈ itemTexts items, hasReserved s = false
  | [] => by simp [itemTexts]
  | item :: rest => by
    have h := hasReserved_text item
    have hr := hasReserved_itemTexts rest
    simpa [itemTexts, h] using hr

theorem hasReserved_memberTexts : (members : List (String × Json)) →
    ∀ s ∈ memberTexts members, hasReserved s = false
  | [] => by simp [memberTexts]
  | (key, value) :: rest => by
    have h := hasReserved_text value
    have hk := hasReserved_stringText key
    have hr := hasReserved_memberTexts rest
    have hc : hasReserved ":" = false := by decide
    simpa [memberTexts, h, hk, hc] using hr

end

end Json

/-- A value without reserved characters is written without them. -/
theorem Compile.hasReserved_lexical {j : Json} (h : j.reserved? = none) :
    hasReserved (Compile.lexical j) = false := by
  cases j with
  | str s => simpa [Json.reserved?, Compile.lexical] using h
  | null => decide
  | _ => exact Json.hasReserved_text _

end QuerySql
