import Mathlib.Data.List.Forall2
import QuerySql.Json.Parser
import QuerySql.Proofs.NumberTexts

/-!
# Written JSON can be read

A value that is written is read back: strings, booleans, nulls and integers as they are, binary
numbers as binary numbers, arrays item by item and objects member by member. A value is followed by
nothing or by a character that does not go on it, and the reader has enough fuel, since it takes at
least one character for every two steps.

* `Json.scanString?_escaped`: a string is read back from its escaped form.
* `Json.ReadsAs levels j j'`: wherever `j` is written, `j'` is read, in `levels` of arrays and
  objects.
* `Json.ReadsAs.parse?`: so it is from a whole text.
* `Json.printable_text`: no control character is written.
-/

namespace QuerySql.Json

/-! ## Strings -/

/-- The characters stand for `c` inside a string. -/
def isEscape (c : Char) : List Char → Bool
  | [d] => d = c && c ≠ '\x22' && c ≠ '\\' && 32 ≤ c.toNat
  | ['\\', d] => d ≠ 'u' && shortEscape? d = some c
  | ['\\', 'u', x, y, z, w] => hexUnit? x y z w = some c.toNat && !isSurrogate c.toNat
  | _ => false

theorem escapeChar_of_ge {c : Char} (h : 128 ≤ c.toNat) : escapeChar c = [c] := by
  have hne : ∀ z : Char, z.toNat < 128 → c ≠ z := by
    rintro z hz rfl
    omega
  have h16 : ¬ c.toNat < 16 := by omega
  have h32 : ¬ c.toNat < 32 := by omega
  simp only [escapeChar, hne '\x22' (by decide), hne '\\' (by decide), hne '\x08' (by decide),
    hne '\t' (by decide), hne '\n' (by decide), hne '\x0c' (by decide), hne '\r' (by decide),
    h16, h32, or_self, if_false]

theorem isEscape_escapeChar (c : Char) : isEscape c (escapeChar c) = true := by
  rcases Nat.lt_or_ge c.toNat 128 with hc | hc
  · have h : ∀ n < 128, isEscape (Char.ofNat n) (escapeChar (Char.ofNat n)) = true := by
      decide +kernel
    simpa [Char.ofNat_toNat] using h c.toNat hc
  · have hquote : c ≠ '\x22' := by
      rintro rfl
      exact absurd hc (by decide)
    have hbackslash : c ≠ '\\' := by
      rintro rfl
      exact absurd hc (by decide)
    have hcontrol : 32 ≤ c.toNat := by omega
    simp [escapeChar_of_ge hc, isEscape, hquote, hbackslash, hcontrol]

/-- An escaped character is read as the character. -/
theorem scanString?_append {c : Char} {cs : List Char} (h : isEscape c cs = true) (kept : Bool)
    (rest : List Char) :
    scanString? kept (cs ++ rest) = (scanString? kept rest).map fun p => (c :: p.1, p.2) := by
  unfold isEscape at h
  split at h
  · next d =>
    simp only [Bool.and_eq_true, decide_eq_true_eq, ne_eq] at h
    obtain ⟨⟨⟨rfl, hquote⟩, hbackslash⟩, hcontrol⟩ := h
    rw [List.singleton_append, scanString?]
    · rw [if_neg (by simp [hbackslash]; omega)]
    all_goals simp_all
  · next d =>
    simp only [Bool.and_eq_true, decide_eq_true_eq, ne_eq] at h
    obtain ⟨hunit, hshort⟩ := h
    simp only [List.cons_append, List.nil_append]
    rw [scanString?]
    · simp only [hshort]
    · simp_all
  · next x y z w =>
    simp only [Bool.and_eq_true, decide_eq_true_eq, Bool.not_eq_true'] at h
    obtain ⟨hunit, hsurrogate⟩ := h
    simp only [List.cons_append, List.nil_append]
    rw [scanString?.eq_3]
    simp [hunit, hsurrogate, Char.ofNat_toNat]
  · cases h

/-- A string is read back from its escaped form. -/
theorem scanString?_escaped (kept : Bool) (cs rest : List Char) :
    scanString? kept (cs.flatMap escapeChar ++ '\x22' :: rest) = some (cs, rest) := by
  induction cs with
  | nil => rw [List.flatMap_nil, List.nil_append, scanString?]
  | cons c cs ih =>
    rw [List.flatMap_cons, List.append_assoc, scanString?_append (isEscape_escapeChar c), ih]
    rfl

/-! ## Values -/

/-- Wherever `j` is written, inside less than `nestingLimit` arrays and objects with its own
`levels`, the reader finds `j'` and the text after it. -/
structure ReadsAs (levels : Nat) (j j' : Json) : Prop where
  /-- The text starts with a token, and not with one that ends an array. -/
  head : ∃ c cs, j.text.toList = c :: cs ∧ isSpace c = false ∧ c ≠ ']'
  read (rest : List Char) (fuel depth : Nat) :
    rest.head?.all (fun c => !NumberText.isContinuing c) = true →
    2 * j.text.toList.length < fuel → depth + levels < nestingLimit →
    valueAt? true fuel depth (j.text.toList ++ rest) = some (j', rest)

theorem skipSpaces_cons {c : Char} (h : isSpace c = false) (cs : List Char) :
    skipSpaces (c :: cs) = c :: cs := by
  simp [skipSpaces, h]

/-- What is neither an array nor an object is a scalar. -/
theorem valueAt?_scalar (kept : Bool) (fuel depth : Nat) {c : Char} (hspace : isSpace c = false)
    (harray : c ≠ '[') (hobject : c ≠ '\x7b') (cs : List Char) :
    valueAt? kept (fuel + 1) depth (c :: cs) = scalar? kept (c :: cs) := by
  rw [valueAt?, skipSpaces_cons hspace]
  split
  · next heq => exact absurd (List.cons.inj heq).1 harray
  · next heq => exact absurd (List.cons.inj heq).1 hobject
  · rfl

theorem ReadsAs.of_scalar? {levels : Nat} {j j' : Json} {c : Char} {cs : List Char}
    (hj : j.text.toList = c :: cs) (hspace : isSpace c = false)
    (hother : c ≠ ']' ∧ c ≠ '[' ∧ c ≠ '\x7b')
    (h : ∀ rest : List Char, rest.head?.all (fun c => !NumberText.isContinuing c) = true →
      scalar? true (c :: cs ++ rest) = some (j', rest)) : ReadsAs levels j j' where
  head := ⟨c, cs, hj, hspace, hother.1⟩
  read rest fuel depth hrest hfuel _ := by
    obtain ⟨fuel, rfl⟩ := Nat.exists_eq_add_one.mpr (Nat.zero_lt_of_lt hfuel)
    rw [hj, List.cons_append, valueAt?_scalar true fuel depth hspace hother.2.1 hother.2.2,
      ← List.cons_append]
    exact h rest hrest

theorem readsAs_null (levels : Nat) : ReadsAs levels .null .null := by
  have htext : Json.null.text.toList = ['n', 'u', 'l', 'l'] := rfl
  exact .of_scalar? htext (by decide) (by decide) fun rest _ => by simp [scalar?, afterWord?]

theorem readsAs_bool (levels : Nat) (b : Bool) : ReadsAs levels (.bool b) (.bool b) := by
  cases b with
  | true =>
    have htext : (Json.bool true).text.toList = ['t', 'r', 'u', 'e'] := rfl
    exact .of_scalar? htext (by decide) (by decide) fun rest _ => by simp [scalar?, afterWord?]
  | false =>
    have htext : (Json.bool false).text.toList = ['f', 'a', 'l', 's', 'e'] := rfl
    exact .of_scalar? htext (by decide) (by decide) fun rest _ => by simp [scalar?, afterWord?]

theorem toList_stringText (s : String) :
    (stringText s).toList = '\x22' :: (s.toList.flatMap escapeChar ++ ['\x22']) := by
  rw [stringText, String.toList_ofList, List.cons_append]

theorem readsAs_str (levels : Nat) (s : String) : ReadsAs levels (.str s) (.str s) := by
  refine .of_scalar? (j := .str s) (toList_stringText s) (by decide) (by decide) fun rest _ => ?_
  rw [List.cons_append, List.append_assoc, List.singleton_append, scalar?, scanString?_escaped]
  simp

/-- A number starts with a digit or a minus. -/
theorem head_of_scan? {c : Char} {cs : List Char} {p : NumberText × List Char}
    (h : NumberText.scan? (c :: cs) = some p) : c.isDigit = true ∨ c = '-' := by
  by_cases hminus : c = '-'
  · exact .inr hminus
  · left
    by_contra hdigit
    have hscan := NumberText.scan?_signed false hminus cs
    simp [hdigit] at hscan
    rw [hscan] at h
    cases h

theorem scalar?_number {c : Char} {cs rest : List Char} {t : NumberText}
    (hscan : NumberText.scan? (c :: cs) = some (t, rest)) {n : Number} (hn : t.value? = some n)
    (kept : Bool) : scalar? kept (c :: cs) = some (.num n, rest) := by
  have hne : ∀ d ∈ ['n', 't', 'f', '\x22'], c ≠ d := by
    have hothers : ∀ d ∈ ['n', 't', 'f', '\x22'], ¬ (d.isDigit = true ∨ d = '-') := by decide
    rintro d hd rfl
    exact hothers c hd (head_of_scan? hscan)
  unfold scalar?
  split
  · next heq => exact absurd (List.cons.inj heq).1 (hne _ (by simp))
  · next heq => exact absurd (List.cons.inj heq).1 (hne _ (by simp))
  · next heq => exact absurd (List.cons.inj heq).1 (hne _ (by simp))
  · next heq => exact absurd (List.cons.inj heq).1 (hne _ (by simp))
  · simp [hscan, hn]

theorem exists_readsAs_num (levels : Nat) {n : Number} (h : n.Representable) :
    ∃ n', n.ReadsAs n' ∧ ReadsAs levels (.num n) (.num n') := by
  obtain ⟨n', hreads, hscan⟩ := Number.exists_scan? h
  refine ⟨n', hreads, ?_⟩
  cases htext : n.text.toList with
  | nil =>
    obtain ⟨t, ht, -⟩ := hscan [] rfl
    rw [htext] at ht
    cases ht
  | cons c cs =>
    rw [htext] at hscan
    have hhead : c.isDigit = true ∨ c = '-' := by
      obtain ⟨t, ht, -⟩ := hscan [] rfl
      exact head_of_scan? ht
    have hothers : ∀ d ∈ [' ', '\t', '\n', '\r', ']', '[', '\x7b'], c ≠ d := by
      have hnot : ∀ d ∈ [' ', '\t', '\n', '\r', ']', '[', '\x7b'],
          ¬ (d.isDigit = true ∨ d = '-') := by decide
      rintro d hd rfl
      exact hnot c hd hhead
    refine .of_scalar? (j := .num n) htext ?_
      ⟨hothers _ (by simp), hothers _ (by simp), hothers _ (by simp)⟩ fun rest hrest => ?_
    · simp [isSpace, hothers ' ' (by simp), hothers '\t' (by simp), hothers '\n' (by simp),
        hothers '\r' (by simp)]
    · obtain ⟨t, ht, hvalue⟩ := hscan rest hrest
      exact scalar?_number ht hvalue true

theorem readsAs_integer (levels : Nat) {n : Int} (h : (Number.integer n).Representable) :
    ReadsAs levels (.num (.integer n)) (.num (.integer n)) := by
  obtain ⟨n', hn, hread⟩ := exists_readsAs_num levels h
  cases hn with
  | integer => exact hread

/-! ## Arrays and objects -/

/-- Items with commas between them, up to the bracket. -/
theorem itemsAt?_itemTexts {levels : Nat} {items items' : List Json}
    (h : List.Forall₂ (ReadsAs levels) items items') (hne : items ≠ []) (rest : List Char)
    (fuel depth : Nat) (hfuel : 2 * (",".intercalate (itemTexts items)).toList.length + 1 < fuel)
    (hdepth : depth + levels < nestingLimit) :
    itemsAt? true fuel depth ((",".intercalate (itemTexts items)).toList ++ ']' :: rest) =
      some (items', rest) := by
  induction h generalizing fuel with
  | nil => exact absurd rfl hne
  | @cons item item' items items' hitem hitems ih =>
    obtain ⟨fuel, rfl⟩ := Nat.exists_eq_add_one.mpr (Nat.zero_lt_of_lt hfuel)
    rw [itemTexts] at hfuel ⊢
    cases hitems with
    | nil =>
      rw [itemTexts, String.intercalate_singleton] at hfuel ⊢
      rw [itemsAt?, hitem.read (']' :: rest) fuel depth rfl (by omega) hdepth]
      simp only [skipSpaces_cons (show isSpace ']' = false by decide)]
    | @cons next next' items items' hnext hitems =>
      rw [itemTexts, String.intercalate_cons_cons, String.toList_append, String.toList_append]
        at hfuel ⊢
      rw [itemTexts] at ih
      simp only [List.length_append] at hfuel
      have hcomma : ",".toList = [','] := rfl
      rw [hcomma, List.length_singleton] at hfuel
      rw [List.append_assoc, List.append_assoc, hcomma, List.singleton_append, itemsAt?,
        hitem.read _ fuel depth rfl (by omega) hdepth]
      simp only [skipSpaces_cons (show isSpace ',' = false by decide)]
      rw [ih (by simp) fuel (by omega)]
      rfl

theorem toList_text_arr (items : List Json) :
    (Json.arr items).text.toList =
      '[' :: ((",".intercalate (itemTexts items)).toList ++ [']']) := by
  rw [Json.text, String.toList_append, String.toList_append]
  rfl

/-- An array is read item by item. -/
theorem ReadsAs.arr {levels : Nat} {items items' : List Json}
    (h : List.Forall₂ (ReadsAs levels) items items') :
    ReadsAs (levels + 1) (.arr items) (.arr items') where
  head := ⟨'[', _, toList_text_arr items, by decide, by decide⟩
  read rest fuel depth hrest hfuel hdepth := by
    obtain ⟨fuel, rfl⟩ := Nat.exists_eq_add_one.mpr (Nat.zero_lt_of_lt hfuel)
    rw [toList_text_arr] at hfuel ⊢
    simp only [List.length_cons, List.length_append, List.length_nil] at hfuel
    rw [List.cons_append, List.append_assoc, List.singleton_append, valueAt?,
      skipSpaces_cons (by decide)]
    simp only
    rw [if_neg (by simp only [Bool.true_and, decide_eq_true_eq]; omega)]
    cases h with
    | nil => simp [itemTexts, skipSpaces_cons (show isSpace ']' = false by decide)]
    | @cons item item' items items' hitem hitems =>
      -- The text of the first item is neither blank nor a bracket, so there are items to read.
      have hread := itemsAt?_itemTexts (.cons hitem hitems) (by simp) rest fuel (depth + 1)
        (by omega) (by omega)
      obtain ⟨c, cs, hc, hspace, hbracket⟩ := hitem.head
      obtain ⟨ds, hds⟩ : ∃ ds, (",".intercalate (itemTexts (item :: items))).toList ++ ']' :: rest =
          c :: ds := by
        cases items with
        | nil =>
          rw [itemTexts, itemTexts, String.intercalate_singleton, hc]
          exact ⟨_, rfl⟩
        | cons next items =>
          rw [itemTexts, itemTexts, String.intercalate_cons_cons, String.toList_append,
            String.toList_append, hc]
          exact ⟨_, rfl⟩
      rw [hds] at hread ⊢
      rw [skipSpaces_cons hspace]
      split
      · next heq => exact absurd (List.cons.inj heq).1 hbracket
      · rw [hread]
        rfl

/-- The member has the same key, and its value is read. -/
def MemberReadsAs (levels : Nat) (m m' : String × Json) : Prop :=
  m.1 = m'.1 ∧ ReadsAs levels m.2 m'.2

/-- A member is read up to the comma or the brace after it. -/
theorem membersAt?_member {levels : Nat} {m m' : String × Json} (h : MemberReadsAs levels m m')
    {c : Char} (hc : NumberText.isContinuing c = false) (rest : List Char) (fuel depth : Nat)
    (hfuel : 2 * (stringText m.1 ++ ":" ++ m.2.text).toList.length < fuel)
    (hdepth : depth + levels < nestingLimit) :
    membersAt? true (fuel + 1) depth
        ((stringText m.1 ++ ":" ++ m.2.text).toList ++ c :: rest) =
      match skipSpaces (c :: rest) with
      | ',' :: rest => (membersAt? true fuel depth rest).map fun p => (m' :: p.1, p.2)
      | '\x7d' :: rest => some ([m'], rest)
      | _ => none := by
  obtain ⟨key, value⟩ := m
  obtain ⟨key', value'⟩ := m'
  obtain ⟨hkey, hvalue⟩ := h
  simp only at hkey hvalue hfuel ⊢
  subst hkey
  have hcolon : ":".toList = [':'] := rfl
  simp only [String.toList_append, List.length_append] at hfuel
  have hread := hvalue.read (c :: rest) fuel depth (by simpa using hc) (by omega) hdepth
  rw [String.toList_append, String.toList_append, toList_stringText, hcolon]
  simp only [List.cons_append, List.append_assoc, List.nil_append]
  generalize hr : membersAt? true (fuel + 1) depth _ = r
  rw [membersAt?, skipSpaces_cons (by decide)] at hr
  simp only [scanString?_escaped, skipSpaces_cons (show isSpace ':' = false by decide), hread,
    String.ofList_toList] at hr
  exact hr.symm

theorem membersAt?_memberTexts {levels : Nat} {members members' : List (String × Json)}
    (h : List.Forall₂ (MemberReadsAs levels) members members') (hne : members ≠ [])
    (rest : List Char) (fuel depth : Nat)
    (hfuel : 2 * (",".intercalate (memberTexts members)).toList.length + 1 < fuel)
    (hdepth : depth + levels < nestingLimit) :
    membersAt? true fuel depth ((",".intercalate (memberTexts members)).toList ++ '\x7d' :: rest) =
      some (members', rest) := by
  induction h generalizing fuel with
  | nil => exact absurd rfl hne
  | @cons m m' members members' hm hmembers ih =>
    obtain ⟨fuel, rfl⟩ := Nat.exists_eq_add_one.mpr (Nat.zero_lt_of_lt hfuel)
    rw [memberTexts] at hfuel ⊢
    cases hmembers with
    | nil =>
      rw [memberTexts, String.intercalate_singleton] at hfuel ⊢
      rw [membersAt?_member hm (by decide) rest fuel depth (by omega) hdepth,
        skipSpaces_cons (by decide)]
      rfl
    | @cons next next' members members' hnext hmembers =>
      rw [memberTexts, String.intercalate_cons_cons, String.toList_append, String.toList_append]
        at hfuel ⊢
      rw [memberTexts] at ih
      have hcomma : ",".toList = [','] := rfl
      simp only [List.length_append, hcomma, List.length_singleton] at hfuel
      rw [List.append_assoc, List.append_assoc, hcomma, List.singleton_append,
        membersAt?_member hm (by decide) _ fuel depth (by omega) hdepth,
        skipSpaces_cons (by decide)]
      simp only
      rw [ih (by simp) fuel (by omega)]
      rfl

theorem setMember_of_notMem {key : String} {members : List (String × Json)}
    (h : key ∉ members.map Prod.fst) (value : Json) :
    setMember key value members = members ++ [(key, value)] := by
  induction members with
  | nil => rfl
  | cons m members ih =>
    simp only [List.map_cons, List.mem_cons, not_or] at h
    rw [setMember, if_neg (Ne.symm h.1), ih h.2, List.cons_append]

/-- Members with different keys stay as they are. -/
theorem ofMembers_of_nodup {members : List (String × Json)} (h : (members.map Prod.fst).Nodup) :
    ofMembers members = .obj members := by
  have hfold : ∀ before : List (String × Json), ((before ++ members).map Prod.fst).Nodup →
      members.foldl (fun acc m => setMember m.1 m.2 acc) before = before ++ members := by
    clear h
    induction members with
    | nil => simp
    | cons m members ih =>
      intro before hnodup
      have hnew : m.1 ∉ before.map Prod.fst := by
        rw [List.map_append, List.nodup_append] at hnodup
        intro hmem
        exact hnodup.2.2 _ hmem _ (by simp) rfl
      rw [List.foldl_cons, setMember_of_notMem hnew, ih _ (by simpa using hnodup)]
      simp
  rw [ofMembers, hfold [] h, List.nil_append]

theorem toList_text_obj (members : List (String × Json)) :
    (Json.obj members).text.toList =
      '\x7b' :: ((",".intercalate (memberTexts members)).toList ++ ['\x7d']) := by
  rw [Json.text, String.toList_append, String.toList_append]
  rfl

/-- An object whose keys are different is read member by member. -/
theorem ReadsAs.obj {levels : Nat} {members members' : List (String × Json)}
    (h : List.Forall₂ (MemberReadsAs levels) members members')
    (hnodup : (members.map Prod.fst).Nodup) :
    ReadsAs (levels + 1) (.obj members) (.obj members') where
  head := ⟨'\x7b', _, toList_text_obj members, by decide, by decide⟩
  read rest fuel depth hrest hfuel hdepth := by
    obtain ⟨fuel, rfl⟩ := Nat.exists_eq_add_one.mpr (Nat.zero_lt_of_lt hfuel)
    rw [toList_text_obj] at hfuel ⊢
    simp only [List.length_cons, List.length_append, List.length_nil] at hfuel
    rw [List.cons_append, List.append_assoc, List.singleton_append, valueAt?,
      skipSpaces_cons (by decide)]
    simp only
    rw [if_neg (by simp only [Bool.true_and, decide_eq_true_eq]; omega)]
    have hkeys : members.map Prod.fst = members'.map Prod.fst := by
      clear hfuel hnodup
      induction h with
      | nil => rfl
      | cons hm _ ih => rw [List.map_cons, List.map_cons, hm.1, ih]
    rw [hkeys] at hnodup
    cases h with
    | nil => simp [memberTexts, skipSpaces_cons (show isSpace '\x7d' = false by decide)]
    | @cons m m' members members' hm hmembers =>
      have hread := membersAt?_memberTexts (.cons hm hmembers) (by simp) rest fuel (depth + 1)
        (by omega) (by omega)
      obtain ⟨ds, hds⟩ : ∃ ds,
          (",".intercalate (memberTexts (m :: members))).toList ++ '\x7d' :: rest =
            '\x22' :: ds := by
        cases members with
        | nil =>
          rw [memberTexts, memberTexts, String.intercalate_singleton, String.toList_append,
            String.toList_append, toList_stringText]
          exact ⟨_, rfl⟩
        | cons next members =>
          rw [memberTexts, memberTexts, String.intercalate_cons_cons, String.toList_append,
            String.toList_append, String.toList_append, String.toList_append, toList_stringText]
          exact ⟨_, rfl⟩
      rw [hds] at hread ⊢
      rw [skipSpaces_cons (by decide)]
      split
      · next heq => cases heq
      · rw [hread, Option.map_some, ofMembers_of_nodup hnodup]

/-- A value is read back from its text. -/
theorem ReadsAs.parse? {levels : Nat} {j j' : Json} (h : ReadsAs levels j j')
    (hlevels : levels < nestingLimit) : Json.parse? j.text = some j' := by
  have hread := h.read [] (2 * j.text.toList.length + 2) 0 rfl (by omega) (by omega)
  rw [List.append_nil] at hread
  simp [Json.parse?, value?, hread, skipSpaces]

/-! ## Control characters -/

/-- The text has no control character. -/
def Printable (s : String) : Prop := ∀ c ∈ s.toList, 32 ≤ c.toNat

instance (s : String) : Decidable (Printable s) :=
  inferInstanceAs (Decidable (∀ c ∈ s.toList, 32 ≤ c.toNat))

theorem Printable.append {s t : String} (hs : Printable s) (ht : Printable t) :
    Printable (s ++ t) := by
  intro c hc
  rw [String.toList_append] at hc
  exact (List.mem_append.mp hc).elim (hs c) (ht c)

theorem Printable.intercalate {sep : String} (hsep : Printable sep) {ss : List String}
    (h : ∀ s ∈ ss, Printable s) : Printable (sep.intercalate ss) := by
  induction ss with
  | nil =>
    rw [String.intercalate_nil]
    decide
  | cons s ss ih =>
    rw [List.forall_mem_cons] at h
    cases ss with
    | nil =>
      rw [String.intercalate_singleton]
      exact h.1
    | cons t ss =>
      rw [String.intercalate_cons_cons]
      exact (h.1.append hsep).append (ih h.2)

theorem printable_stringText (s : String) : Printable (stringText s) := by
  have hescape : ∀ c, ∀ d ∈ escapeChar c, 32 ≤ d.toNat := by
    intro c d hd
    rcases Nat.lt_or_ge c.toNat 128 with hc | hc
    · have h : ∀ n < 128, ∀ d ∈ escapeChar (Char.ofNat n), 32 ≤ d.toNat := by decide +kernel
      exact h c.toNat hc d (by rwa [Char.ofNat_toNat])
    · rw [escapeChar_of_ge hc, List.mem_singleton] at hd
      rw [hd]
      omega
  intro c hc
  rw [toList_stringText] at hc
  simp only [List.mem_cons, List.mem_append, List.mem_flatMap, List.not_mem_nil, or_false] at hc
  rcases hc with rfl | ⟨d, -, hc⟩ | rfl
  · decide
  · exact hescape d c hc
  · decide

theorem printable_number (n : Number) : Printable n.text := by
  intro c hc
  by_contra hcontrol
  have hnot : ∀ k < 32, isNumberChar (Char.ofNat k) = false := by decide
  have hnumber := n.isNumberChar_of_mem_text c hc
  rw [← Char.ofNat_toNat c, hnot c.toNat (by omega)] at hnumber
  cases hnumber

mutual

/-- No control character is written. -/
theorem printable_text : (j : Json) → Printable j.text
  | .null => by decide
  | .bool b => by cases b <;> decide
  | .num n => by
    rw [Json.text]
    exact printable_number n
  | .str s => by
    rw [Json.text]
    exact printable_stringText s
  | .arr items => by
    have hcomma : Printable "," := by decide
    rw [Json.text]
    exact (Printable.append (by decide) (hcomma.intercalate (printable_itemTexts items))).append
      (by decide)
  | .obj members => by
    have hcomma : Printable "," := by decide
    rw [Json.text]
    exact (Printable.append (by decide) (hcomma.intercalate (printable_memberTexts members))).append
      (by decide)

theorem printable_itemTexts : (items : List Json) → ∀ s ∈ itemTexts items, Printable s
  | [] => by simp [itemTexts]
  | item :: rest => by
    rw [itemTexts, List.forall_mem_cons]
    exact ⟨printable_text item, printable_itemTexts rest⟩

theorem printable_memberTexts : (members : List (String × Json)) →
    ∀ s ∈ memberTexts members, Printable s
  | [] => by simp [memberTexts]
  | (key, value) :: rest => by
    have hkey := (printable_stringText key).append (show Printable ":" by decide)
    rw [memberTexts, List.forall_mem_cons]
    exact ⟨hkey.append (printable_text value), printable_memberTexts rest⟩

end

end QuerySql.Json
