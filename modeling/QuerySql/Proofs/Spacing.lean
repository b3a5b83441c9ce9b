import Mathlib.Data.List.Infix
import Mathlib.Data.List.TakeWhile
import QuerySql.Proofs.Respacing

/-!
# Words of a respaced text

Respacing changes blanks and nothing else, whatever the text is: apostrophes and markers may come
without a partner, or one within the other. The words of a text stay, each as it was. So a quote or
a marker that nothing closes finds no partner in the respaced text either, and a second pass over it
copies the same pieces and changes nothing.

* `Text.infix_of_words_eq`: texts with the same words have the same occurrences of a pattern.
* `Sql.words_respace`: respacing keeps the words of a text.
* `Sql.Copied v rest`: before `rest`, the scan copies `v` in one piece.
* `Sql.normalizeSpacing_stable`: what is known of a respaced text.
-/

namespace QuerySql

namespace Text

/-! ## Words -/

/-- The characters can stand together in one word. -/
def IsWord (w : List Char) : Prop := w ≠ [] ∧ ∀ c ∈ w, isBlank c = false

instance (w : List Char) : Decidable (IsWord w) := inferInstanceAs (Decidable (_ ∧ _))

section Words

variable {b c : Char} {cs ds p w : List Char} {ws : List (List Char)}

theorem words_blank (hc : isBlank c = true) : words (c :: cs) = words cs := by
  simp [words, hc]

/-- A character that is not blank starts a word that goes on up to a blank. -/
theorem words_cons (hc : isBlank c = false) (cs : List Char) :
    words (c :: cs) = (c :: cs.takeWhile (!isBlank ·)) :: words (cs.dropWhile (!isBlank ·)) := by
  induction cs generalizing c with
  | nil => simp [words, hc]
  | cons d cs ih =>
    rw [words]
    cases hd : isBlank d with
    | true => cases h : words (d :: cs) <;> simp [hc, hd, h]
    | false =>
      rw [ih hd]
      simp [hc, hd]

theorem words_append (hw : IsWord w) (rest : List Char) :
    words (w ++ rest) =
      (w ++ rest.takeWhile (!isBlank ·)) :: words (rest.dropWhile (!isBlank ·)) := by
  obtain ⟨hne, hletters⟩ := hw
  obtain ⟨c, w, rfl⟩ := List.exists_cons_of_ne_nil hne
  obtain ⟨hc, hletters⟩ := List.forall_mem_cons.mp hletters
  have hpos : ∀ d ∈ w, (!isBlank d) = true := fun d hd => by simp [hletters d hd]
  rw [List.cons_append, words_cons hc, List.takeWhile_append_of_pos hpos,
    List.dropWhile_append_of_pos hpos, List.cons_append]

/-- A word ends before a blank. -/
theorem words_append_of_head? (hw : IsWord w) (h : cs.head?.all isBlank = true) :
    words (w ++ cs) = w :: words cs := by
  rw [words_append hw]
  cases cs with
  | nil => simp
  | cons c cs =>
    have hc : isBlank c = true := by simpa using h
    simp [hc]

theorem words_of_isWord (hw : IsWord w) : words w = [w] := by
  have h := words_append hw []
  simpa [words] using h

/-- A text that starts with a word is that word, then a blank and the other words. -/
theorem exists_of_words_eq_cons (hc : isBlank c = false) (h : words (c :: cs) = w :: ws) :
    ∃ rest, c :: cs = w ++ rest ∧ rest.head?.all isBlank = true ∧ words rest = ws ∧ IsWord w := by
  rw [words_cons hc, List.cons.injEq] at h
  obtain ⟨rfl, rfl⟩ := h
  refine ⟨cs.dropWhile (!isBlank ·), by simp, ?_, rfl, List.cons_ne_nil _ _, ?_⟩
  · have hhead := cs.head?_dropWhile_not (!isBlank ·)
    cases hd : (cs.dropWhile (!isBlank ·)).head? with
    | none => rfl
    | some d => simpa [hd] using hhead
  · refine List.forall_mem_cons.mpr ⟨hc, fun d hd => ?_⟩
    simpa using List.mem_takeWhile_imp hd

/-- Induction over a text, word by word. -/
@[elab_as_elim]
theorem words_induction {motive : List Char → Prop} (nil : motive [])
    (blank : ∀ c cs, isBlank c = true → motive cs → motive (c :: cs))
    (word : ∀ w rest, IsWord w → rest.head?.all isBlank = true → motive rest →
      motive (w ++ rest)) (cs : List Char) : motive cs := by
  induction hn : cs.length using Nat.strongRecOn generalizing cs with
  | ind n ih =>
    cases cs with
    | nil => exact nil
    | cons c cs =>
      cases hc : isBlank c with
      | true => exact blank c cs hc (ih cs.length (by rw [← hn]; exact Nat.lt_succ_self _) cs rfl)
      | false =>
        obtain ⟨rest, heq, hrest, -, hw⟩ := exists_of_words_eq_cons hc (words_cons hc cs)
        have hlength := congrArg List.length heq
        simp only [List.length_append, List.length_cons] at hlength hn
        rw [heq]
        exact word _ _ hw hrest (ih rest.length (by omega) rest rfl)

theorem words_eq_nil_iff : words cs = [] ↔ cs.all isBlank = true := by
  induction cs with
  | nil => simp [words]
  | cons c cs ih =>
    cases hc : isBlank c with
    | true => simp [words_blank hc, ih, hc]
    | false => simp [words_cons hc, hc]

/-- A blank parts the words on either side of it. -/
theorem words_append_blank (hb : isBlank b = true) (xs ys : List Char) :
    words (xs ++ b :: ys) = words xs ++ words ys := by
  induction xs using words_induction with
  | nil => exact words_blank hb
  | blank c cs hc ih => rw [List.cons_append, words_blank hc, words_blank hc, ih]
  | word w rest hw hrest ih =>
    have hnext : (rest ++ b :: ys).head?.all isBlank = true := by
      cases rest with
      | nil => simpa using hb
      | cons c rest => simpa using hrest
    rw [List.append_assoc, words_append_of_head? hw hnext, words_append_of_head? hw hrest, ih,
      List.cons_append]

/-- The words have all characters that are not blank, in their order. -/
theorem flatten_words (cs : List Char) : (words cs).flatten = cs.filter (!isBlank ·) := by
  induction cs using words_induction with
  | nil => rfl
  | blank c cs hc ih => rw [words_blank hc, ih, List.filter_cons_of_neg (by simpa using hc)]
  | word w rest hw hrest ih =>
    have hkept : w.filter (!isBlank ·) = w :=
      List.filter_eq_self.mpr fun c hc => by simp [hw.2 c hc]
    rw [words_append_of_head? hw hrest, List.flatten_cons, ih, List.filter_append, hkept]

theorem infix_of_mem_words (h : w ∈ words cs) : w <:+: cs := by
  induction cs using words_induction with
  | nil => cases h
  | blank c cs hc ih =>
    rw [words_blank hc] at h
    exact List.infix_cons (ih h)
  | word w' rest hw' hrest ih =>
    rw [words_append_of_head? hw' hrest] at h
    rcases List.mem_cons.mp h with rfl | h
    · exact (List.prefix_append w rest).isInfix
    · exact (ih h).trans (List.suffix_append w' rest).isInfix

/-- A word of a text is part of a word if something is put before the text. -/
theorem exists_mem_words_cons (c : Char) (h : w ∈ words cs) :
    ∃ w' ∈ words (c :: cs), w <:+: w' := by
  cases hc : isBlank c with
  | true => exact ⟨w, by rwa [words_blank hc], List.infix_rfl⟩
  | false =>
    rw [words_cons hc]
    cases cs with
    | nil => cases h
    | cons d cs =>
      cases hd : isBlank d with
      | true => exact ⟨w, by simp [hd, h], List.infix_rfl⟩
      | false =>
        rw [words_cons hd] at h
        rcases List.mem_cons.mp h with rfl | h
        · exact ⟨_, List.mem_cons_self, by simpa [hd] using List.infix_cons List.infix_rfl⟩
        · exact ⟨w, List.mem_cons_of_mem _ (by simpa [hd] using h), List.infix_rfl⟩

/-- Texts with the same words have the same occurrences of a pattern without blanks. -/
theorem infix_of_words_eq (hp : IsWord p) (hwords : words cs = words ds) (h : p <:+: cs) :
    p <:+: ds := by
  obtain ⟨before, after, rfl⟩ := h
  have hmem : ∀ before, ∃ w ∈ words (before ++ (p ++ after)), p <:+: w := by
    intro before
    induction before with
    | nil =>
      rw [List.nil_append, words_append hp]
      exact ⟨_, List.mem_cons_self, (List.prefix_append p _).isInfix⟩
    | cons c before ih =>
      obtain ⟨w, hw, hsubword⟩ := ih
      obtain ⟨w', hw', hsub⟩ := exists_mem_words_cons c hw
      exact ⟨w', hw', hsubword.trans hsub⟩
  obtain ⟨w, hw, hsubword⟩ := hmem before
  rw [← List.append_assoc, hwords] at hw
  exact hsubword.trans (infix_of_mem_words hw)

/-- Texts with the same words start with the same patterns without blanks. -/
theorem prefix_of_words_eq (hp : IsWord p) (hc : isBlank c = false)
    (hwords : words cs = words (c :: ds)) (h : p <+: cs) : p <+: c :: ds := by
  obtain ⟨rest, rfl⟩ := h
  rw [words_append hp] at hwords
  obtain ⟨rest', hrest', -⟩ := exists_of_words_eq_cons hc hwords.symm
  rw [hrest', List.append_assoc]
  exact List.prefix_append p _

end Words

/-! ## Occurrences -/

section Occurrences

variable {p cs b : List Char}

theorem before?_eq_none_iff : before? p cs = none ↔ ¬ p <:+: cs := by
  induction cs with
  | nil => cases p <;> simp [before?]
  | cons c cs ih =>
    rw [before?, List.infix_cons_iff]
    split
    · next hpre => simp [List.isPrefixOf_iff_prefix.mp hpre]
    · next hpre => simp [ih, ← List.isPrefixOf_iff_prefix, hpre]

theorem before?_of_prefix (h : p <+: cs) : before? p cs = some [] := by
  cases cs with
  | nil => simp [before?, List.prefix_nil.mp h]
  | cons c cs => rw [before?, if_pos (List.isPrefixOf_iff_prefix.mpr h)]

/-- Whether an occurrence is the first one does not depend on what follows it. -/
theorem before?_eq_some (h : before? p cs = some b) :
    ∃ rest, cs = b ++ p ++ rest ∧ ∀ rest', before? p (b ++ p ++ rest') = some b := by
  induction cs generalizing b with
  | nil =>
    rw [before?] at h
    split at h
    · next hp =>
      cases h
      cases List.isEmpty_iff.mp hp
      exact ⟨[], rfl, fun rest => before?_of_prefix List.nil_prefix⟩
    · cases h
  | cons c cs ih =>
    rw [before?] at h
    split at h
    · next hpre =>
      cases h
      obtain ⟨rest, hrest⟩ := List.isPrefixOf_iff_prefix.mp hpre
      exact ⟨rest, hrest.symm, fun rest' => before?_of_prefix (List.prefix_append p rest')⟩
    · next hpre =>
      obtain ⟨b', hb', rfl⟩ := Option.map_eq_some_iff.mp h
      obtain ⟨rest, rfl, hfirst⟩ := ih hb'
      refine ⟨rest, rfl, fun rest' => ?_⟩
      have hnot : p.isPrefixOf (c :: (b' ++ p ++ rest')) = false := by
        rw [← Bool.not_eq_true, List.isPrefixOf_iff_prefix]
        rw [List.isPrefixOf_iff_prefix] at hpre
        intro hlater
        have hwithin : p <+: c :: (b' ++ p) :=
          List.prefix_of_prefix_length_le hlater ⟨rest', rfl⟩ (by simp; omega)
        exact hpre (hwithin.trans ⟨rest, rfl⟩)
      rw [List.cons_append, List.cons_append, before?, hnot, hfirst]
      rfl

end Occurrences

end Text

namespace Sql

/-! ## Pieces that are copied -/

variable {c : Char} {cs v rest : List Char}

/-- A character is copied alone exactly if it opens nothing that is closed. -/
theorem verbatimLength_eq_one_iff :
    verbatimLength (c :: cs) = 1 ↔
      (openMarker <+: c :: cs → ¬ closeMarker <:+: (c :: cs).drop openMarker.length) ∧
      (c = '\x27' → ¬ ['\x27'] <:+: cs) := by
  have hopens : openMarker <+: c :: cs → c ≠ '\x27' := by
    rintro ⟨rest, hrest⟩ rfl
    cases hrest
  have hfound : ∀ {p ds b : List Char}, Text.before? p ds = some b → p <:+: ds := by
    intro p ds b hb
    obtain ⟨rest, heq, -⟩ := Text.before?_eq_some hb
    exact ⟨b, rest, heq.symm⟩
  unfold verbatimLength markedHead?
  split
  · next hopen =>
    have hpre := List.isPrefixOf_iff_prefix.mp hopen
    cases hb : Text.before? closeMarker ((c :: cs).drop openMarker.length) with
    | none => simp [Text.before?_eq_none_iff.mp hb, hopens hpre]
    | some b =>
      have hlength : markedLength b ≠ 1 := by
        simp only [markedLength, openMarker, List.length_cons]
        omega
      simp [hpre, hfound hb, hlength]
  · next hopen =>
    rw [List.isPrefixOf_iff_prefix] at hopen
    simp only [hopen, false_implies, true_and]
    split
    · next rest heq =>
      obtain ⟨rfl, rfl⟩ := List.cons.inj heq
      cases hb : Text.before? ['\x27'] cs with
      | none => simp [Text.before?_eq_none_iff.mp hb]
      | some b => simp [hfound hb]
    · next hne => simpa using fun hc => absurd (by rw [hc]) (hne cs)

/-- Before `rest`, the scan copies `v` in one piece. Only for a single character does that depend on
what follows. -/
structure Copied (v rest : List Char) : Prop where
  starts : ∃ c u, v = c :: u ∧ Text.isBlank c = false
  ends : ∃ u c, v = u ++ [c] ∧ Text.isBlank c = false
  length_eq : verbatimLength (v ++ rest) = v.length
  lasting : v.length ≠ 1 → ∀ rest', verbatimLength (v ++ rest') = v.length

theorem verbatimLength_marked {b : List Char} (rest : List Char)
    (h : Text.before? closeMarker (b ++ closeMarker ++ rest) = some b) :
    verbatimLength (openMarker ++ b ++ closeMarker ++ rest) =
      (openMarker ++ b ++ closeMarker).length := by
  have hopen : openMarker.isPrefixOf (openMarker ++ (b ++ closeMarker ++ rest)) = true :=
    List.isPrefixOf_iff_prefix.mpr (List.prefix_append _ _)
  rw [List.append_assoc openMarker, List.append_assoc openMarker]
  unfold verbatimLength markedHead?
  rw [if_pos hopen, if_pos hopen, List.drop_left, h]
  simp [markedLength, Nat.add_assoc]

theorem verbatimLength_quoted {b : List Char} (rest : List Char)
    (h : Text.before? ['\x27'] (b ++ ['\x27'] ++ rest) = some b) :
    verbatimLength ('\x27' :: (b ++ ['\x27']) ++ rest) = ('\x27' :: (b ++ ['\x27'])).length := by
  have hopen : openMarker.isPrefixOf ('\x27' :: (b ++ ['\x27'] ++ rest)) = false := rfl
  rw [List.cons_append]
  unfold verbatimLength
  rw [hopen, if_neg Bool.false_ne_true]
  simp only [h]
  simp

/-- A text that starts with a word starts with a piece that is copied. -/
theorem exists_copied (hc : Text.isBlank c = false) (cs : List Char) :
    ∃ v rest, c :: cs = v ++ rest ∧ Copied v rest := by
  by_cases hone : verbatimLength (c :: cs) = 1
  · exact ⟨[c], cs, rfl, ⟨c, [], rfl, hc⟩, ⟨[], c, rfl, hc⟩, hone, fun h => absurd rfl h⟩
  simp only [verbatimLength_eq_one_iff, not_and_or, Classical.not_imp, not_not] at hone
  have hsome : ∀ {p ds : List Char}, p <:+: ds → ∃ b rest, ds = b ++ p ++ rest ∧
      ∀ rest', Text.before? p (b ++ p ++ rest') = some b := by
    intro p ds h
    cases hb : Text.before? p ds with
    | none => exact absurd h (Text.before?_eq_none_iff.mp hb)
    | some b =>
      obtain ⟨rest, hrest⟩ := Text.before?_eq_some hb
      exact ⟨b, rest, hrest⟩
  rcases hone with ⟨⟨r, hr⟩, hclosed⟩ | ⟨rfl, hclosed⟩
  · rw [← hr, List.drop_left] at hclosed
    obtain ⟨b, rest, rfl, hfirst⟩ := hsome hclosed
    exact ⟨openMarker ++ b ++ closeMarker, rest, by simp [← hr], ⟨'\x02', _, rfl, by decide⟩,
      ⟨openMarker ++ b ++ [':', 'j', 'q', 'l'], '\x03', by simp [closeMarker], by decide⟩,
      verbatimLength_marked rest (hfirst rest),
      fun _ rest' => verbatimLength_marked rest' (hfirst _)⟩
  · obtain ⟨b, rest, rfl, hfirst⟩ := hsome hclosed
    exact ⟨'\x27' :: (b ++ ['\x27']), rest, rfl, ⟨'\x27', _, rfl, by decide⟩,
      ⟨'\x27' :: b, '\x27', rfl, by decide⟩,
      verbatimLength_quoted rest (hfirst rest),
      fun _ rest' => verbatimLength_quoted rest' (hfirst _)⟩

/-- Induction over a text as the scan goes over it. -/
@[elab_as_elim]
theorem copied_induction {motive : List Char → Prop} (nil : motive [])
    (blank : ∀ c cs, Text.isBlank c = true → motive cs → motive (c :: cs))
    (copied : ∀ v rest, Copied v rest → motive rest → motive (v ++ rest)) (cs : List Char) :
    motive cs := by
  induction hn : cs.length using Nat.strongRecOn generalizing cs with
  | ind n ih =>
    cases cs with
    | nil => exact nil
    | cons c cs =>
      cases hc : Text.isBlank c with
      | true => exact blank c cs hc (ih cs.length (by rw [← hn]; exact Nat.lt_succ_self _) cs rfl)
      | false =>
        obtain ⟨v, rest, heq, hv⟩ := exists_copied hc cs
        obtain ⟨d, u, rfl, -⟩ := hv.starts
        have hlength := congrArg List.length heq
        simp only [List.length_append, List.length_cons] at hlength hn
        rw [heq]
        exact copied _ _ hv (ih rest.length (by omega) rest rfl)

theorem respace_blank (hc : Text.isBlank c = true) (gap started : Bool) (cs : List Char) :
    respace gap started 0 (c :: cs) = respace true started 0 cs := by
  rw [respace, if_pos hc]

/-- A piece is copied after the space that is due. -/
theorem Copied.respace_append (h : Copied v rest) (gap started : Bool) :
    respace gap started 0 (v ++ rest) =
      (Mode.free gap started).due ++ (v ++ respace false true 0 rest) := by
  obtain ⟨c, u, rfl, hc⟩ := h.starts
  have hlength := h.length_eq
  rw [List.cons_append, List.length_cons] at hlength
  have hcopy := respace_verbatim u rest
  rw [List.cons_append, respace, if_neg (by simp [hc]), hlength, Nat.add_sub_cancel, hcopy]
  cases gap <;> cases started <;> rfl

/-! ## Words of a respaced text -/

/-- The words of a text, after others, are kept by respacing. A gap is a blank between the two. -/
theorem words_append_respace (gap : Bool) (xs cs : List Char) :
    Text.words (xs ++ respace gap true 0 cs) =
      Text.words (xs ++ (Mode.free gap true).due ++ cs) := by
  have hspace : Text.isBlank ' ' = true := by decide
  have hdue : ∀ xs gap, Text.words (xs ++ (Mode.free gap true).due) = Text.words xs := by
    intro xs gap
    cases gap with
    | false => simp [Mode.due]
    | true => simpa [Mode.due, Text.words] using Text.words_append_blank hspace xs []
  induction cs using copied_induction generalizing gap xs with
  | nil => rw [respace, List.append_nil, List.append_nil, hdue]
  | blank c cs hc ih =>
    rw [respace_blank hc, ih, Text.words_append_blank hc, hdue]
    simpa [Mode.due] using Text.words_append_blank hspace xs cs
  | copied v rest hv ih =>
    rw [hv.respace_append, ← List.append_assoc, ← List.append_assoc, ih false]
    simp [Mode.due]

/-- Respacing keeps the words of a text. -/
theorem words_respace (gap : Bool) (cs : List Char) :
    Text.words (respace gap false 0 cs) = Text.words cs := by
  induction cs using copied_induction generalizing gap with
  | nil => rfl
  | blank c cs hc ih => rw [respace_blank hc, ih, Text.words_blank hc]
  | copied v rest hv =>
    have hwords := words_append_respace false v rest
    rw [hv.respace_append]
    simpa [Mode.due] using hwords

/-! ## Respacing twice -/

/-- The letters of a marker are copied one by one. -/
theorem respace_letters (r : List Char) :
    respace false true 0 (['j', 'q', 'l', ':'] ++ r) =
      ['j', 'q', 'l', ':'] ++ respace false true 0 r := by
  have hletter : ∀ d ∈ ['j', 'q', 'l', ':'], ∀ cs,
      respace false true 0 (d :: cs) = d :: respace false true 0 cs := by
    intro d hd cs
    have hplain : Text.isBlank d = false ∧ d ≠ '\x02' ∧ d ≠ '\x27' := by
      revert d
      decide
    rw [respace, if_neg (by simp [hplain.1]), verbatimLength_plain cs hplain.2.1 hplain.2.2]
    rfl
  simp only [List.forall_mem_cons] at hletter
  obtain ⟨hj, hq, hl, hcolon, -⟩ := hletter
  simp only [List.cons_append, List.nil_append, hj, hq, hl, hcolon]

/-- A character that opens nothing that is closed opens nothing after respacing either. -/
theorem verbatimLength_respace (hc : Text.isBlank c = false) (h : verbatimLength (c :: cs) = 1) :
    verbatimLength (c :: respace false true 0 cs) = 1 := by
  have hwords : ∀ cs, Text.words (respace false true 0 cs) = Text.words cs :=
    words_append_respace false []
  rw [verbatimLength_eq_one_iff] at h ⊢
  refine ⟨fun hopen hclosed => ?_, fun heq hclosed => h.2 heq ?_⟩
  · -- The marker was there before, and so was what closes it.
    have hopened : openMarker <+: c :: cs :=
      Text.prefix_of_words_eq (by decide) hc (words_append_respace false [c] cs) hopen
    obtain ⟨r, hr⟩ := hopened
    obtain ⟨rfl, rfl⟩ : c = '\x02' ∧ cs = ['j', 'q', 'l', ':'] ++ r := by
      simpa [openMarker, eq_comm] using hr
    rw [respace_letters] at hclosed
    exact h.1 ⟨r, rfl⟩ (Text.infix_of_words_eq (by decide) (hwords r) hclosed)
  · exact Text.infix_of_words_eq (by decide) (hwords cs) hclosed

/-- What is copied from a text is copied from the respaced text. -/
theorem Copied.respaced (h : Copied v rest) : Copied v (respace false true 0 rest) where
  starts := h.starts
  ends := h.ends
  lasting := h.lasting
  length_eq := by
    by_cases hone : v.length = 1
    · obtain ⟨c, u, rfl, hc⟩ := h.starts
      obtain rfl : u = [] := by simpa using hone
      exact verbatimLength_respace hc h.length_eq
    · exact h.lasting hone _

/-- A text that was respaced is copied. -/
theorem respace_respace (gap started : Bool) (cs : List Char) :
    respace false started 0 (respace gap started 0 cs) = respace gap started 0 cs := by
  induction cs using copied_induction generalizing gap started with
  | nil => rfl
  | blank c cs hc ih => rw [respace_blank hc, ih]
  | copied v rest hv ih =>
    have hcopy : ∀ gap started, respace gap started 0 (v ++ respace false true 0 rest) =
        (Mode.free gap started).due ++ (v ++ respace false true 0 rest) := by
      intro gap started
      rw [hv.respaced.respace_append, ih]
    rw [hv.respace_append]
    cases gap with
    | false => exact hcopy false started
    | true =>
      cases started with
      | false => exact hcopy false false
      | true => exact (respace_blank (by decide) false true _).trans (hcopy true true)

/-! ## The ends of a respaced text -/

theorem head?_respace (gap : Bool) (cs : List Char) :
    (respace gap false 0 cs).head?.all (!Text.isBlank ·) = true := by
  induction cs using copied_induction generalizing gap with
  | nil => rfl
  | blank c cs hc ih => rw [respace_blank hc, ih]
  | copied v rest hv =>
    obtain ⟨c, u, rfl, hc⟩ := hv.starts
    rw [hv.respace_append]
    simp [Mode.due, hc]

theorem getLast?_respace (gap started : Bool) (cs : List Char) :
    (respace gap started 0 cs).getLast?.all (!Text.isBlank ·) = true := by
  induction cs using copied_induction generalizing gap started with
  | nil => rfl
  | blank c cs hc ih => rw [respace_blank hc, ih]
  | copied v rest hv ih =>
    obtain ⟨u, c, rfl, hc⟩ := hv.ends
    rw [hv.respace_append, List.getLast?_append, List.getLast?_append]
    have hrest := ih false true
    cases hlast : (respace false true 0 rest).getLast? with
    | none => simp [hc]
    | some d => simpa [hlast] using hrest

/-- Respacing changes blanks only, and nothing when it is done again. Whatever the text is, the
characters that are not blank stay in their order, and so do the words: characters are parted by
blanks afterwards exactly where they were before. No blank is left at the ends. -/
theorem normalizeSpacing_stable (s : String) :
    normalizeSpacing (normalizeSpacing s) = normalizeSpacing s ∧
      (normalizeSpacing s).toList.filter (!Text.isBlank ·) = s.toList.filter (!Text.isBlank ·) ∧
      Text.words (normalizeSpacing s).toList = Text.words s.toList ∧
      (normalizeSpacing s).toList.head?.all (!Text.isBlank ·) = true ∧
      (normalizeSpacing s).toList.getLast?.all (!Text.isBlank ·) = true := by
  have hwords := words_respace false s.toList
  simp only [normalizeSpacing, String.toList_ofList]
  refine ⟨?_, ?_, hwords, head?_respace false s.toList, getLast?_respace false false s.toList⟩
  · rw [respace_respace]
  · rw [← Text.flatten_words, hwords, Text.flatten_words]

-- The third apostrophe has no partner, so the blanks after it are not kept.
example : normalizeSpacing " a =  'x  y' OR  o'clock  b " = "a = 'x  y' OR o'clock b" := by
  decide +kernel

end Sql

end QuerySql
