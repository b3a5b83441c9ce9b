import QuerySql.Proofs.Characters
import QuerySql.Sql.Denylist

/-!
# What the denylist finds

The denylist is searched from the left, one position after the other. It finds something exactly if
some piece of the text is forbidden, which is said here piece by piece, in terms of the piece and of
the characters on either side of it.

* `Forbidden before after piece`: the piece is forbidden where it stands.
* `Clean s`: no piece of the text is forbidden.
* `denied?_eq_none_iff`: nothing is found in a text exactly if it is clean.
-/

namespace QuerySql.Sql

/-- Two words that are forbidden one after the other. -/
def deniedPairs : List (List Char × List Char) :=
  [("drop".toList, "table".toList), ("insert".toList, "into".toList)]

/-- Words that are forbidden before a parenthesis. -/
def deniedCalls : List (List Char) := ["if".toList, "sleep".toList]

/-- The piece is forbidden between the characters `before` and `after`, if there are any. -/
inductive Forbidden (before after : Option Char) : List Char → Prop
  /-- The end of a statement, a comment, or the null character. -/
  | sign {cs : List Char} :
    cs ∈ [[';'], ['-', '-'], ['/', '*'], ['*', '/'], ['\x00']] → Forbidden before after cs
  | version {cs : List Char} : cs.map foldCase = "@@version".toList → Forbidden before after cs
  /-- A character by its number. -/
  | numbered {c : Char} {ds : List Char} :
    (foldCase c = 'x' ∧ ds.length = 2) ∨ (foldCase c = 'u' ∧ ds.length = 4) →
    (∀ d ∈ ds, isHexDigit d = true) → Forbidden before after ('\\' :: c :: ds)
  | escape {c : Char} :
    foldCase c ∈ ['0', 'b', 'n', 'r', 't', 'z', '\x27', '\x22', '\\'] →
    Forbidden before after ['\\', c]
  /-- Two words with blanks between them, neither of them part of a longer word. -/
  | pair {first blanks second : List Char} :
    (first.map foldCase, second.map foldCase) ∈ deniedPairs → blanks ≠ [] →
    (∀ c ∈ blanks, Text.isBlank c = true) → Text.atWordBoundary before first.head? = true →
    Text.atWordBoundary second.getLast? after = true →
    Forbidden before after (first ++ blanks ++ second)
  /-- A word before an opening parenthesis, not part of a longer word. -/
  | call {word blanks : List Char} : word.map foldCase ∈ deniedCalls →
    (∀ c ∈ blanks, Text.isBlank c = true) → Text.atWordBoundary before word.head? = true →
    Forbidden before after (word ++ blanks ++ ['('])

/-- No piece of the text is forbidden. -/
def Clean (s : String) : Prop :=
  ∀ pre piece post : List Char, s.toList = pre ++ piece ++ post →
    ¬ Forbidden pre.getLast? post.head? piece

/-! ## Words in either case -/

theorem toLower_cases (c : Char) :
    c.toLower = c ∨ (65 ≤ c.toNat ∧ c.toNat ≤ 90 ∧ c.toLower.toNat = c.toNat + 32) := by
  unfold Char.toLower
  split
  · next h =>
    right
    have h1 : 65 ≤ c.toNat := h.1
    have h2 : c.toNat ≤ 90 := h.2
    refine ⟨h1, h2, ?_⟩
    have hadd : (c.val + 32).toNat = (c.val.toNat + 32) % 2 ^ 32 := UInt32.toNat_add c.val 32
    have hval : c.val.toNat = c.toNat := rfl
    exact hadd.trans (by omega)
  · left; rfl

theorem foldCase_of_isBlank {c : Char} (h : Text.isBlank c = true) : foldCase c = c := by
  have hs : c ≠ 'ſ' := by
    rintro rfl
    exact absurd h (by decide)
  rw [foldCase, if_neg hs]
  rcases toLower_cases c with hc | ⟨h1, h2, -⟩
  · exact hc
  · simp [Text.isBlank] at h
    omega

theorem foldCase_eq_at {c : Char} (h : foldCase c = '@') : c = '@' := by
  unfold foldCase at h
  split at h
  · cases h
  · rcases toLower_cases c with hc | ⟨h1, h2, h3⟩
    · rw [← hc, h]
    · rw [h] at h3
      have : '@'.toNat = 64 := rfl
      omega

theorem word?_eq_some_iff {w cs found rest : List Char} :
    word? w cs = some (found, rest) ↔ cs = found ++ rest ∧ found.map foldCase = w := by
  induction w generalizing cs found with
  | nil =>
    simp only [word?, Option.some.injEq, Prod.mk.injEq, List.map_eq_nil_iff]
    constructor
    · rintro ⟨rfl, rfl⟩
      exact ⟨rfl, rfl⟩
    · rintro ⟨rfl, rfl⟩
      exact ⟨rfl, rfl⟩
  | cons w ws ih =>
    cases cs with
    | nil =>
      simp only [word?]
      constructor
      · intro h
        cases h
      · rintro ⟨h, hm⟩
        obtain ⟨rfl, -⟩ := List.nil_eq_append_iff.mp h
        cases hm
    | cons c cs =>
      simp only [word?]
      constructor
      · intro h
        split at h
        · next hc =>
          obtain ⟨⟨found', rest'⟩, hw, he⟩ := Option.map_eq_some_iff.mp h
          cases he
          obtain ⟨rfl, rfl⟩ := ih.mp hw
          exact ⟨rfl, by simp [hc]⟩
        · cases h
      · rintro ⟨h, hm⟩
        cases found with
        | nil => cases hm
        | cons d found =>
          obtain ⟨rfl, hcs⟩ := List.cons.inj h
          obtain ⟨hc, hm⟩ := List.cons.inj hm
          rw [if_pos hc, ih.mpr ⟨hcs, hm⟩]
          rfl

theorem foldCase_mem {cs w : List Char} (h : cs.map foldCase = w) {c : Char} (hc : c ∈ cs) :
    foldCase c ∈ w :=
  h ▸ List.mem_map_of_mem hc

/-- A run of blanks ends where something else begins. -/
theorem span_blanks {blanks rest : List Char} (hb : ∀ c ∈ blanks, Text.isBlank c = true)
    (hr : ∀ c ∈ rest.head?, Text.isBlank c = false) :
    (blanks ++ rest).takeWhile Text.isBlank = blanks ∧
      (blanks ++ rest).dropWhile Text.isBlank = rest := by
  rw [List.takeWhile_append_of_pos hb, List.dropWhile_append_of_pos hb]
  cases rest with
  | nil => simp
  | cons c rest =>
    have hc := hr c rfl
    simp [hc]

theorem head?_of_map_foldCase {cs w : List Char} (h : cs.map foldCase = w)
    (hw : ∀ c ∈ w, Text.isBlank c = false) (hne : w ≠ []) (rest : List Char) :
    ∀ c ∈ (cs ++ rest).head?, Text.isBlank c = false := by
  cases cs with
  | nil => exact absurd h.symm hne
  | cons d cs =>
    intro c hc
    cases hc
    cases hb : Text.isBlank d with
    | false => rfl
    | true =>
      have hd := hw _ (foldCase_mem h List.mem_cons_self)
      rw [foldCase_of_isBlank hb, hb] at hd
      exact hd

/-! ## Keywords -/

theorem wordPair?_eq_some {f g cs piece : List Char} (h : wordPair? f g cs = some piece) :
    ∃ first blanks second post : List Char, cs = first ++ blanks ++ second ++ post ∧
      piece = first ++ blanks ++ second ∧ first.map foldCase = f ∧ second.map foldCase = g ∧
      blanks ≠ [] ∧ (∀ c ∈ blanks, Text.isBlank c = true) ∧
      Text.atWordBoundary second.getLast? post.head? = true := by
  simp only [wordPair?, Option.bind_eq_bind, Option.bind_eq_some_iff] at h
  obtain ⟨⟨first, rest⟩, hfirst, h⟩ := h
  obtain ⟨rfl, hf⟩ := word?_eq_some_iff.mp hfirst
  simp only at h
  split at h
  · cases h
  · next hblanks =>
    simp only [Option.bind_eq_some_iff] at h
    obtain ⟨⟨second, post⟩, hsecond, h⟩ := h
    obtain ⟨hrest, hg⟩ := word?_eq_some_iff.mp hsecond
    split at h
    · next hboundary =>
      refine ⟨first, rest.takeWhile Text.isBlank, second, post, ?_, ?_, hf, hg, ?_, ?_, hboundary⟩
      · rw [List.append_assoc, List.append_assoc, ← hrest, List.takeWhile_append_dropWhile]
      · exact (Option.some.inj h).symm
      · simpa using hblanks
      · exact List.all_eq_true.mp List.all_takeWhile
    · cases h

theorem wordPair?_append {first blanks second post : List Char}
    (hsecond : ∀ c ∈ (second ++ post).head?, Text.isBlank c = false) (hne : blanks ≠ [])
    (hblanks : ∀ c ∈ blanks, Text.isBlank c = true)
    (hboundary : Text.atWordBoundary second.getLast? post.head? = true) :
    wordPair? (first.map foldCase) (second.map foldCase) (first ++ blanks ++ second ++ post) =
      some (first ++ blanks ++ second) := by
  obtain ⟨htake, hdrop⟩ := span_blanks hblanks hsecond
  have hword : ∀ xs ys : List Char, word? (xs.map foldCase) (xs ++ ys) = some (xs, ys) :=
    fun xs ys => word?_eq_some_iff.mpr ⟨rfl, rfl⟩
  have hempty : blanks.isEmpty = false := by simpa using hne
  rw [List.append_assoc, List.append_assoc, wordPair?, hword]
  simp only [Option.bind_eq_bind, Option.bind_some, htake, hdrop, hempty, hword, hboundary]
  rw [if_neg Bool.false_ne_true, if_pos trivial]

theorem wordCall?_eq_some {w cs piece : List Char} (h : wordCall? w cs = some piece) :
    ∃ word blanks post : List Char, cs = word ++ blanks ++ ['('] ++ post ∧
      piece = word ++ blanks ++ ['('] ∧ word.map foldCase = w ∧
      ∀ c ∈ blanks, Text.isBlank c = true := by
  simp only [wordCall?, Option.bind_eq_bind, Option.bind_eq_some_iff] at h
  obtain ⟨⟨word, rest⟩, hword, h⟩ := h
  obtain ⟨rfl, hw⟩ := word?_eq_some_iff.mp hword
  simp only at h
  split at h
  · next post hpost =>
    refine ⟨word, rest.takeWhile Text.isBlank, post, ?_, (Option.some.inj h).symm, hw, ?_⟩
    · have hsplit := List.takeWhile_append_dropWhile (p := Text.isBlank) (l := rest)
      rw [hpost] at hsplit
      rw [List.append_assoc, List.append_assoc, List.singleton_append, hsplit]
    · exact List.all_eq_true.mp List.all_takeWhile
  · cases h

theorem wordCall?_append {word blanks post : List Char}
    (hblanks : ∀ c ∈ blanks, Text.isBlank c = true) :
    wordCall? (word.map foldCase) (word ++ blanks ++ ['('] ++ post) =
      some (word ++ blanks ++ ['(']) := by
  have hopen : ∀ c ∈ (['('] ++ post).head?, Text.isBlank c = false := by
    intro c hc
    cases hc
    decide
  obtain ⟨htake, hdrop⟩ := span_blanks hblanks hopen
  have hword : word? (word.map foldCase) (word ++ (blanks ++ (['('] ++ post))) =
      some (word, blanks ++ (['('] ++ post)) := word?_eq_some_iff.mpr ⟨rfl, rfl⟩
  rw [List.append_assoc, List.append_assoc, wordCall?, hword]
  simp only [Option.bind_eq_bind, Option.bind_some, htake, hdrop]
  rfl

/-! ## Escapes -/

theorem escape?_eq_some {cs piece : List Char} (h : escape? cs = some piece) :
    ∃ post, cs = piece ++ post ∧ ∀ before after, Forbidden before after piece := by
  have hdigits : ∀ {c : Char} {rest : List Char} {n : Nat},
      (foldCase c = 'x' ∧ n = 2) ∨ (foldCase c = 'u' ∧ n = 4) →
      (if (rest.take n).length = n && (rest.take n).all isHexDigit then
        some ('\\' :: c :: rest.take n) else none) = some piece →
      ∃ post, '\\' :: c :: rest = piece ++ post ∧ ∀ before after, Forbidden before after piece := by
    intro c rest n hn h
    split at h
    · next hd =>
      simp only [Bool.and_eq_true, decide_eq_true_eq, List.all_eq_true] at hd
      cases h
      refine ⟨rest.drop n, by simp, fun before after => .numbered ?_ hd.2⟩
      rwa [hd.1]
    · cases h
  unfold escape? at h
  split at h
  · next c rest =>
    simp only at h
    split at h
    · next hx => exact hdigits (.inl ⟨hx, rfl⟩) h
    · split at h
      · next hu => exact hdigits (.inr ⟨hu, rfl⟩) h
      · split at h
        · next hc =>
          cases h
          exact ⟨rest, rfl, fun before after => .escape (by simpa using hc)⟩
        · cases h
  · cases h

theorem isSome_escape?_numbered {c : Char} {ds post : List Char}
    (hc : (foldCase c = 'x' ∧ ds.length = 2) ∨ (foldCase c = 'u' ∧ ds.length = 4))
    (hds : ∀ d ∈ ds, isHexDigit d = true) :
    (escape? ('\\' :: c :: (ds ++ post))).isSome = true := by
  have hall : ds.all isHexDigit = true := List.all_eq_true.mpr hds
  rcases hc with ⟨hx, hl⟩ | ⟨hu, hl⟩
  · simp [escape?, hx, ← hl, hall]
  · simp [escape?, hu, ← hl, hall]

theorem isSome_escape?_escape {c : Char} {post : List Char}
    (hc : foldCase c ∈ ['0', 'b', 'n', 'r', 't', 'z', '\x27', '\x22', '\\']) :
    (escape? ('\\' :: c :: post)).isSome = true := by
  have hx : foldCase c ≠ 'x' := fun h => absurd (h ▸ hc) (by decide)
  have hu : foldCase c ≠ 'u' := fun h => absurd (h ▸ hc) (by decide)
  have hcontains := List.contains_iff_mem.mpr hc
  simp only [escape?, hx, hu, if_false, hcontains, if_true, Option.isSome_some]

/-! ## One position -/

theorem keyword?_eq_some {before : Option Char} {cs piece : List Char}
    (hb : Text.atWordBoundary before cs.head? = true) (h : keyword? cs = some piece) :
    ∃ post, cs = piece ++ post ∧ Forbidden before post.head? piece := by
  have hhead : ∀ {first rest w : List Char}, first.map foldCase = w → w ≠ [] →
      (first ++ rest).head? = first.head? := by
    intro first rest w hw hne
    cases first with
    | nil => exact absurd hw.symm hne
    | cons c first => rfl
  have hpair : ∀ {f g : List Char}, f ≠ [] → (f, g) ∈ deniedPairs →
      wordPair? f g cs = some piece →
      ∃ post, cs = piece ++ post ∧ Forbidden before post.head? piece := by
    intro f g hne hfg hw
    obtain ⟨first, blanks, second, post, rfl, rfl, hf, hg, hbl, hblanks, hbound⟩ :=
      wordPair?_eq_some hw
    rw [List.append_assoc, List.append_assoc, hhead hf hne] at hb
    exact ⟨post, rfl, .pair (by rwa [hf, hg]) hbl hblanks hb hbound⟩
  have hcall : ∀ {w : List Char}, w ≠ [] → w ∈ deniedCalls →
      wordCall? w cs = some piece →
      ∃ post, cs = piece ++ post ∧ Forbidden before post.head? piece := by
    intro w hne hw hc
    obtain ⟨word, blanks, post, rfl, rfl, hword, hblanks⟩ := wordCall?_eq_some hc
    rw [List.append_assoc, List.append_assoc, hhead hword hne] at hb
    exact ⟨post, rfl, .call (by rwa [hword]) hblanks hb⟩
  simp only [keyword?, Option.or_eq_some_iff] at h
  rcases h with h | ⟨-, h | ⟨-, h | ⟨-, h⟩⟩⟩
  · exact hpair (by decide) (by decide) h
  · exact hpair (by decide) (by decide) h
  · exact hcall (by decide) (by decide) h
  · exact hcall (by decide) (by decide) h

/-- What is found at the head of a text is forbidden there. -/
theorem deniedHead?_eq_some {before : Option Char} {cs piece : List Char}
    (h : deniedHead? before cs = some piece) :
    ∃ post, cs = piece ++ post ∧ Forbidden before post.head? piece := by
  unfold deniedHead? at h
  split at h
  · next post => cases h; exact ⟨post, rfl, .sign (by decide)⟩
  · next post => cases h; exact ⟨post, rfl, .sign (by decide)⟩
  · next post => cases h; exact ⟨post, rfl, .sign (by decide)⟩
  · next post => cases h; exact ⟨post, rfl, .sign (by decide)⟩
  · next rest =>
    obtain ⟨⟨found, post⟩, hw, rfl⟩ := Option.map_eq_some_iff.mp h
    obtain ⟨hcs, hfound⟩ := word?_eq_some_iff.mp hw
    exact ⟨post, hcs, .version hfound⟩
  · obtain ⟨post, hcs, hf⟩ := escape?_eq_some h
    exact ⟨post, hcs, hf _ _⟩
  · next post => cases h; exact ⟨post, rfl, .sign (by decide)⟩
  · split at h
    · next hb => exact keyword?_eq_some hb h
    · cases h

/-- A text that starts with a letter is only searched for keywords. -/
theorem deniedHead?_eq_keyword? {before : Option Char} {c : Char} {cs : List Char}
    (hc : foldCase c ∈ ['d', 'i', 's']) (hb : Text.atWordBoundary before (some c) = true) :
    deniedHead? before (c :: cs) = keyword? (c :: cs) := by
  have hne : ∀ d ∈ [';', '-', '/', '*', '@', '\\', '\x00'], c ≠ d := by
    rintro d hd rfl
    have hsigns : ∀ d ∈ [';', '-', '/', '*', '@', '\\', '\x00'],
        foldCase d ∉ ['d', 'i', 's'] := by decide
    exact hsigns c hd hc
  simp only [List.forall_mem_cons] at hne
  unfold deniedHead?
  split
  · next h => exact absurd (List.cons.inj h).1 hne.1
  · next h => exact absurd (List.cons.inj h).1 hne.2.1
  · next h => exact absurd (List.cons.inj h).1 hne.2.2.1
  · next h => exact absurd (List.cons.inj h).1 hne.2.2.2.1
  · next h => exact absurd (List.cons.inj h).1 hne.2.2.2.2.1
  · next h => exact absurd (List.cons.inj h).1 hne.2.2.2.2.2.1
  · next h => exact absurd (List.cons.inj h).1 hne.2.2.2.2.2.2.1
  · rw [List.head?_cons, if_pos hb]

theorem isSome_keyword?_pair {first blanks second post : List Char}
    (hw : (first.map foldCase, second.map foldCase) ∈ deniedPairs) (hne : blanks ≠ [])
    (hblanks : ∀ c ∈ blanks, Text.isBlank c = true)
    (hbound : Text.atWordBoundary second.getLast? post.head? = true) :
    (keyword? (first ++ blanks ++ second ++ post)).isSome = true := by
  have hsecond : ∀ w ∈ ["table".toList, "into".toList],
      w ≠ [] ∧ ∀ c ∈ w, Text.isBlank c = false := by decide
  have hpair : ∀ {g : List Char}, second.map foldCase = g → g ∈ ["table".toList, "into".toList] →
      wordPair? (first.map foldCase) g (first ++ blanks ++ second ++ post) =
        some (first ++ blanks ++ second) := by
    rintro g rfl hg
    obtain ⟨hgne, hgb⟩ := hsecond _ hg
    exact wordPair?_append (head?_of_map_foldCase rfl hgb hgne post) hne hblanks hbound
  simp only [deniedPairs, List.mem_cons, List.not_mem_nil, or_false, Prod.mk.injEq] at hw
  rcases hw with ⟨hf, hg⟩ | ⟨hf, hg⟩
  · have h := hpair hg (by decide)
    rw [hf] at h
    simp only [keyword?, Option.isSome_or, h, Option.isSome_some, Bool.true_or]
  · have h := hpair hg (by decide)
    rw [hf] at h
    simp only [keyword?, Option.isSome_or, h, Option.isSome_some, Bool.or_true, Bool.true_or]

theorem isSome_keyword?_call {word blanks post : List Char}
    (hw : word.map foldCase ∈ deniedCalls)
    (hblanks : ∀ c ∈ blanks, Text.isBlank c = true) :
    (keyword? (word ++ blanks ++ ['('] ++ post)).isSome = true := by
  have h : wordCall? (word.map foldCase) (word ++ blanks ++ ['('] ++ post) =
      some (word ++ blanks ++ ['(']) := wordCall?_append hblanks
  simp only [deniedCalls, List.mem_cons, List.not_mem_nil, or_false] at hw
  rcases hw with hw | hw <;>
  · rw [hw] at h
    simp only [keyword?, Option.isSome_or, h, Option.isSome_some, Bool.or_true, Bool.true_or]

/-- What is forbidden at the head of a text is found there, or something else is. -/
theorem isSome_deniedHead? {before : Option Char} {piece post : List Char}
    (h : Forbidden before post.head? piece) :
    (deniedHead? before (piece ++ post)).isSome = true := by
  cases h with
  | sign h =>
    simp only [List.mem_cons, List.not_mem_nil, or_false] at h
    rcases h with rfl | rfl | rfl | rfl | rfl <;> rfl
  | version h =>
    obtain ⟨c, cs, rfl⟩ : ∃ c cs, piece = c :: cs := by
      cases piece with
      | nil => exact absurd h (by decide)
      | cons c cs => exact ⟨c, cs, rfl⟩
    have hword : word? "@@version".toList (c :: cs ++ post) = some (c :: cs, post) :=
      word?_eq_some_iff.mpr ⟨rfl, h⟩
    obtain rfl : c = '@' := foldCase_eq_at (List.cons.inj h).1
    simp only [List.cons_append] at hword ⊢
    simp only [deniedHead?, hword, Option.map_some, Option.isSome_some]
  | numbered hc hds => exact isSome_escape?_numbered hc hds
  | escape hc => exact isSome_escape?_escape hc
  | @pair first blanks second hw hne hblanks hb hbound =>
    have hsome := isSome_keyword?_pair hw hne hblanks hbound
    have hfirst : ∀ w ∈ deniedPairs, ∃ d ∈ ['d', 'i', 's'], w.1.head? = some d := by decide
    obtain ⟨d, hd, hhead⟩ := hfirst _ hw
    cases first with
    | nil => cases hhead
    | cons c first =>
      cases hhead
      exact (deniedHead?_eq_keyword? hd hb).symm ▸ hsome
  | @call word blanks hw hblanks hb =>
    have hsome : (keyword? (word ++ blanks ++ ['('] ++ post)).isSome = true :=
      isSome_keyword?_call hw hblanks
    have hfirst : ∀ w ∈ deniedCalls, ∃ d ∈ ['d', 'i', 's'], w.head? = some d := by decide
    obtain ⟨d, hd, hhead⟩ := hfirst _ hw
    cases word with
    | nil => cases hhead
    | cons c word =>
      cases hhead
      exact (deniedHead?_eq_keyword? hd hb).symm ▸ hsome

/-! ## Whole texts -/

theorem Forbidden.ne_nil {before after : Option Char} {piece : List Char}
    (h : Forbidden before after piece) : piece ≠ [] := by
  cases h with
  | sign h | version h =>
    rintro rfl
    exact absurd h (by decide)
  | numbered | escape | call => simp
  | pair _ hne => simp [hne]

theorem deniedHead?_eq_none_iff {before : Option Char} {cs : List Char} :
    deniedHead? before cs = none ↔ ∀ piece post : List Char, cs = piece ++ post →
      ¬ Forbidden before post.head? piece := by
  constructor
  · rintro h piece post rfl hf
    have hsome := isSome_deniedHead? hf
    rw [h] at hsome
    cases hsome
  · intro h
    cases hd : deniedHead? before cs with
    | none => rfl
    | some piece =>
      obtain ⟨post, hcs, hf⟩ := deniedHead?_eq_some hd
      exact absurd hf (h piece post hcs)

theorem deniedFrom?_eq_none_iff {before : Option Char} {cs : List Char} :
    deniedFrom? before cs = none ↔ ∀ pre piece post : List Char, cs = pre ++ piece ++ post →
      ¬ Forbidden (pre.getLast?.or before) post.head? piece := by
  induction cs generalizing before with
  | nil =>
    refine ⟨fun _ pre piece post hcs hf => hf.ne_nil ?_, fun _ => rfl⟩
    simp only [List.nil_eq, List.append_eq_nil_iff] at hcs
    exact hcs.1.2
  | cons c cs ih =>
    have hlast : ∀ pre : List Char,
        (c :: pre).getLast?.or before = pre.getLast?.or (some c) := by
      intro pre
      rw [List.getLast?_cons]
      cases pre.getLast? <;> rfl
    rw [deniedFrom?, Option.or_eq_none_iff, deniedHead?_eq_none_iff, ih]
    constructor
    · rintro ⟨hhead, htail⟩ pre piece post hcs
      cases pre with
      | nil => exact hhead piece post hcs
      | cons d pre =>
        obtain ⟨rfl, hpre⟩ := List.cons.inj hcs
        rw [hlast]
        exact htail pre piece post hpre
    · intro h
      refine ⟨fun piece post hcs => h [] piece post hcs, fun pre piece post hcs => ?_⟩
      rw [← hlast]
      exact h (c :: pre) piece post (by rw [hcs]; rfl)

/-- Nothing is found in a text exactly if it is clean. -/
theorem denied?_eq_none_iff {s : String} : denied? s = none ↔ Clean s := by
  rw [denied?, Option.map_eq_none_iff, deniedFrom?_eq_none_iff]
  simp only [Option.or_none, Clean]

end QuerySql.Sql
