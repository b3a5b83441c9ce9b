import Mathlib.Data.List.Forall2
import QuerySql.Proofs.Carried

/-!
# Texts put into other texts

A text that is respaced already and stands in parentheses is not touched when the text around it is
respaced: where apostrophes come in pairs, respacing of the whole is that of its pieces one after
the other. So a statement is found unchanged in every statement that it is put into.

* `Settled`: parts that respacing copies, as it does all parts that were respaced.
* `Woven Block bs ps`: the parts `ps` have blocks for all of `bs` in them, between parentheses.
* `assembly_woven`: putting texts together puts their blocks one after the other.
* `Interleaved`: pieces stand in a whole in their order; `Woven.interleaved` finds blocks this way.
-/

namespace QuerySql

open Compile

namespace Sql

/-! ## Respacing one piece after the other -/

/-- After paired parts, respacing goes on outside of quotes. -/
theorem respaceParts_append {m : Mode} {ps : List Segment} (h : Paired m.isQuoted ps) :
    ∃ gap started, ∀ rest, respaceParts m (ps ++ rest) =
      respaceParts m ps ++ respaceParts (.free gap started) rest := by
  induction ps generalizing m with
  | nil =>
    cases m with
    | quoted => cases h
    | free gap started => exact ⟨gap, started, fun rest => rfl⟩
  | cons p ps ih =>
    cases p with
    | plain c =>
      have hahead : (m.isQuoted != (c == '\x27')) = true →
          (ps.any fun p => hasQuote p.written) = true := fun hopen =>
        Paired.any_hasQuote (by rwa [Paired, hopen] at h)
      have hstep := m.isQuoted_step hahead
      obtain ⟨gap, started, hrest⟩ := @ih (m.step (ps.any fun p => hasQuote p.written) c).2
        (by rwa [hstep])
      refine ⟨gap, started, fun rest => ?_⟩
      have hcongr : m.step ((ps ++ rest).any fun p => hasQuote p.written) c =
          m.step (ps.any fun p => hasQuote p.written) c := by
        rw [m.step_congr hahead,
          m.step_congr fun hopen => by rw [List.any_append, hahead hopen]; rfl]
      rw [List.cons_append, respaceParts_plain, respaceParts_plain, hcongr, hrest,
        List.append_assoc]
    | literal b =>
      cases m with
      | quoted => cases h.1
      | free gap started =>
        obtain ⟨gap', started', hrest⟩ := @ih (.free false true) h.2
        refine ⟨gap', started', fun rest => ?_⟩
        simp only [List.cons_append, respaceParts, hrest, List.append_assoc]

/-- A blank that is due is passed over and is due again. -/
theorem respaceParts_due (gap started : Bool) (ps : List Segment) :
    respaceParts (.free false true) ((Mode.free gap started).due.map .plain ++ ps) =
      respaceParts (.free (gap && started) true) ps := by
  cases gap <;> cases started <;> rfl

/-- What a step writes is copied. -/
theorem respaceParts_step (m : Mode) {ahead : Bool} {c : Char} {ps : List Segment}
    (hahead : (m.isQuoted != (c == '\x27')) = true → ahead = true)
    (hps : (m.isQuoted != (c == '\x27')) = true →
      (ps.any fun p => hasQuote p.written) = true) :
    respaceParts m.settled ((m.step ahead c).1.map .plain ++ ps) =
      (m.step ahead c).1.map .plain ++ respaceParts (m.step ahead c).2.settled ps := by
  rw [m.step_congr hahead]
  cases m with
  | quoted =>
    by_cases hc : c = '\x27' <;> simp [Mode.step, Mode.settled, respaceParts_plain, hc]
  | free gap started =>
    by_cases hb : Text.isBlank c
    · simp [Mode.step, hb, Mode.settled]
    · rw [Bool.not_eq_true] at hb
      have hnext : (Mode.free (gap && started) true).step
          (ps.any fun p => hasQuote p.written) c = (Mode.free gap started).step true c := by
        rw [Mode.step_congr (.free (gap && started) true) hps, Mode.step_free hb,
          Mode.step_free hb]
        simp [Mode.due]
      have hsettled : ((Mode.free gap started).step true c).2.settled =
          ((Mode.free gap started).step true c).2 := by
        rw [Mode.step_free hb]
        by_cases hc : c = '\x27' <;> simp [hc, Mode.settled]
      rw [hsettled, ← hnext, ← respaceParts_plain, hnext, Mode.step_free hb, Mode.settled,
        List.map_append, List.append_assoc, respaceParts_due]
      rfl

/-- Parts that were respaced are copied, and no blank is due after them. -/
theorem respaceParts_respaceParts {m : Mode} {ps : List Segment} (h : Paired m.isQuoted ps)
    (rest : List Segment) :
    respaceParts m.settled (respaceParts m ps ++ rest) =
      respaceParts m ps ++ respaceParts (.free false true) rest := by
  induction ps generalizing m with
  | nil =>
    cases m with
    | quoted => cases h
    | free gap started => rfl
  | cons p ps ih =>
    cases p with
    | plain c =>
      have hahead : (m.isQuoted != (c == '\x27')) = true →
          (ps.any fun p => hasQuote p.written) = true := fun hopen =>
        Paired.any_hasQuote (by rwa [Paired, hopen] at h)
      have hstep := m.isQuoted_step hahead
      have hpaired : Paired (m.step (ps.any fun p => hasQuote p.written) c).2.isQuoted ps := by
        rwa [hstep]
      have hspaced := hpaired.respaceParts.1
      rw [respaceParts_plain, List.append_assoc, respaceParts_step m hahead, ih hpaired,
        List.append_assoc]
      intro hopen
      rw [hstep, hopen] at hspaced
      rw [List.any_append, hspaced.any_hasQuote, Bool.true_or]
    | literal b =>
      cases m with
      | quoted => cases h.1
      | free gap started =>
        have ih := @ih (.free false true) h.2
        simp only [respaceParts, Mode.settled, List.append_assoc, respaceParts_due,
          List.cons_append] at ih ⊢
        rw [ih]
        cases gap <;> cases started <;> rfl

/-- Respacing copies the parts after anything that ends outside of quotes. -/
structure Settled (ps : List Segment) : Prop where
  paired : Paired false ps
  copied (rest : List Segment) : respaceParts (.free false true) (ps ++ rest) =
    ps ++ respaceParts (.free false true) rest

theorem Paired.settled_respaceParts {ps : List Segment} (h : Paired false ps)
    (gap started : Bool) : Settled (Sql.respaceParts (.free gap started) ps) where
  paired := (@Paired.respaceParts (.free gap started) ps h).1
  copied := @respaceParts_respaceParts (.free gap started) ps h

/-! ## Blocks in parentheses -/

/-- The parts between parentheses. -/
def enclosed (ps : List Segment) : List Segment := .plain '(' :: (ps ++ [.plain ')'])

/-- A settled text in parentheses is copied after the blank that is due. -/
theorem Settled.respaceParts_enclosed {ps : List Segment} (h : Settled ps) (gap started : Bool)
    (rest : List Segment) :
    respaceParts (.free gap started) (enclosed ps ++ rest) =
      (Mode.free gap started).due.map .plain ++ enclosed ps ++
        respaceParts (.free false true) rest := by
  have hparen : ∀ c ∈ ['(', ')'], ∀ ahead gap started, (Mode.free gap started).step ahead c =
      ((Mode.free gap started).due ++ [c], .free false true) := by
    intro c hc ahead gap started
    rw [Mode.step_free (by revert c; decide), if_neg]
    revert c
    cases ahead <;> decide
  simp only [List.forall_mem_cons] at hparen
  obtain ⟨hopen, hclose, -⟩ := hparen
  simp only [enclosed, List.cons_append, List.append_assoc, List.nil_append]
  rw [respaceParts_plain, hopen, h.copied, respaceParts_plain, hclose]
  simp [Mode.due]

variable {α : Type} {Block : α → List Segment → Prop}

/-- The parts have a block for each of the list, in order and between parentheses. Around the blocks
apostrophes come in pairs. -/
inductive Woven (Block : α → List Segment → Prop) : List α → List Segment → Prop
  | gap {ps : List Segment} (h : Paired false ps) : Woven Block [] ps
  | block {gap block rest : List Segment} {a : α} {as : List α} (hgap : Paired false gap)
      (hblock : Block a block) (hrest : Woven Block as rest) :
      Woven Block (a :: as) (gap ++ (enclosed block ++ rest))

namespace Woven

theorem prepend {gap ps : List Segment} {as : List α} (hgap : Paired false gap)
    (h : Woven Block as ps) : Woven Block as (gap ++ ps) := by
  cases h with
  | gap h => exact .gap (hgap.append h)
  | block hgap' hblock hrest =>
    rw [← List.append_assoc]
    exact .block (hgap.append hgap') hblock hrest

theorem append {ps qs : List Segment} {as bs : List α} (hp : Woven Block as ps)
    (hq : Woven Block bs qs) : Woven Block (as ++ bs) (ps ++ qs) := by
  induction hp with
  | gap h => exact hq.prepend h
  | block hgap hblock _ ih =>
    rw [List.append_assoc, List.append_assoc]
    exact .block hgap hblock ih

/-- Respacing keeps the blocks as they are. -/
theorem respaceParts (hsettled : ∀ {a b}, Block a b → Settled b) {ps : List Segment} {as : List α}
    (h : Woven Block as ps) (gap started : Bool) :
    Woven Block as (Sql.respaceParts (.free gap started) ps) := by
  induction h generalizing gap started with
  | gap h => exact .gap (@Paired.respaceParts (.free gap started) _ h).1
  | @block g block rest a as hgap hblock _ ih =>
    have hpaired := (@Paired.respaceParts (.free gap started) _ hgap).1
    obtain ⟨gap', started', hrest⟩ := @respaceParts_append (.free gap started) _ hgap
    have hdue : Paired false ((Mode.free gap' started').due.map .plain) := by
      cases gap' <;> cases started' <;> rfl
    rw [hrest, (hsettled hblock).respaceParts_enclosed, List.append_assoc, ← List.append_assoc]
    exact .block (hpaired.append hdue) hblock (ih false true)

/-- Characters before the first block can be taken off, if none of them is an apostrophe or opens
a block. -/
theorem of_plain_append {cs : List Char} (hquote : '\x27' ∉ cs) (hopen : '(' ∉ cs)
    {ps : List Segment} {as : List α} (h : Woven Block as (cs.map .plain ++ ps)) :
    Woven Block as ps := by
  generalize hqs : cs.map Segment.plain ++ ps = qs at h
  cases h with
  | gap h =>
    rw [← hqs, Paired.plain_append_iff hquote] at h
    exact .gap h
  | @block gap block rest a as hgap hblock hrest =>
    rcases List.append_eq_append_iff.mp hqs with ⟨gap', rfl, rfl⟩ | ⟨taken, hcs, htaken⟩
    · rw [Paired.plain_append_iff hquote] at hgap
      exact .block hgap hblock hrest
    · -- The characters end before the parenthesis that opens the block.
      cases taken with
      | nil =>
        rw [List.nil_append] at htaken
        rw [← htaken]
        exact @Woven.block _ _ [] _ _ _ _ rfl hblock hrest
      | cons p taken =>
        have hp : p = .plain '(' := (List.cons.inj htaken).1.symm
        have hmem : Segment.plain '(' ∈ cs.map Segment.plain := by
          rw [hcs, hp]
          exact List.mem_append_right _ List.mem_cons_self
        obtain ⟨c, hc, heq⟩ := List.mem_map.mp hmem
        cases heq
        exact absurd hc hopen

/-- A blank text has no block. -/
theorem eq_nil {ps : List Segment} {as : List α} (h : Woven Block as ps)
    (hblank : ps.all Segment.isBlank = true) : as = [] := by
  cases h with
  | gap => rfl
  | block =>
    simp [enclosed, Segment.isBlank, show Text.isBlank '(' = false by decide] at hblank

end Woven

/-! ## Texts with blocks -/

/-- The text has a block for each of the list, in order and between parentheses. -/
def WovenText (Block : α → List Segment → Prop) (s : String) (as : List α) : Prop :=
  ∃ ps, Marked s ps ∧ Woven Block as ps

namespace WovenText

variable {s t : String} {as bs : List α}

theorem bare (h : Bare s) : WovenText Block s [] :=
  ⟨_, .bare h.unreserved, .gap (.of_even h.even)⟩

theorem mark (h : hasReserved s = false) : WovenText Block (mark s) [] :=
  ⟨_, .mark h, .gap ⟨rfl, rfl⟩⟩

theorem append (hs : WovenText Block s as) (ht : WovenText Block t bs) :
    WovenText Block (s ++ t) (as ++ bs) := by
  obtain ⟨ps, hps, hwoven⟩ := hs
  obtain ⟨qs, hqs, hwoven'⟩ := ht
  exact ⟨ps ++ qs, hps.append hqs, hwoven.append hwoven'⟩

/-- A text between two others. -/
theorem between (hs : WovenText Block s as) {sep : String} (hsep : Bare sep)
    (ht : WovenText Block t bs) : WovenText Block (s ++ sep ++ t) (as ++ bs) := by
  have h := (hs.append (bare hsep)).append ht
  rwa [List.append_nil] at h

/-- A block. -/
theorem parenthesized {a : α} {block : List Segment} (hs : Marked s block)
    (hblock : Block a block) : WovenText Block (parenthesized s) [a] := by
  have hopen : Marked "(" [.plain '('] := .bare (by decide)
  have hclose : Marked ")" [.plain ')'] := .bare (by decide)
  refine ⟨_, (hopen.append hs).append hclose, ?_⟩
  have hnil : Woven Block [] [] := .gap rfl
  have hwoven := @Woven.block _ _ [] _ _ _ _ rfl hblock hnil
  simpa [enclosed] using hwoven

theorem eq_nil (h : WovenText Block s as) (hblank : Text.isBlankText s = true) : as = [] := by
  obtain ⟨ps, hps, hwoven⟩ := h
  rw [hps.isBlankText_eq] at hblank
  exact hwoven.eq_nil hblank

theorem withoutLeadingOperand (h : WovenText Block s as) :
    WovenText Block (withoutLeadingOperand s) as := by
  obtain ⟨ps, hps, hwoven⟩ := h
  obtain ⟨pre, hpre, hleading⟩ := withoutLeadingOperandParts_suffix ps
  refine ⟨_, hps.withoutLeadingOperand, ?_⟩
  rw [hpre] at hwoven
  exact hwoven.of_plain_append (notMem_of_isLeading hleading (by decide))
    (notMem_of_isLeading hleading (by decide))

theorem normalizeSpacing (hsettled : ∀ {a b}, Block a b → Settled b)
    (h : WovenText Block s as) : WovenText Block (normalizeSpacing s) as := by
  obtain ⟨ps, hps, hwoven⟩ := h
  exact ⟨_, hps.normalizeSpacing, hwoven.respaceParts hsettled false false⟩

end WovenText

/-- Putting texts together puts their blocks one after the other. Blocks belong to one text, which
stands on both sides of the relation. -/
theorem assembly_woven (hsettled : ∀ {a b}, Block a b → Settled b) :
    Assembly id Bare (fun s t as => t = s ∧ WovenText Block s as) where
  phrase := .of_isPhrase
  append := .append
  uppercase := .uppercase
  bare h := ⟨rfl, .bare h⟩
  joined := by
    rintro sep a _ c _ vs ws hsep ⟨rfl, hab⟩ ⟨rfl, hcd⟩
    exact ⟨rfl, hab.between (.of_isPhrase (Bool.and_eq_true_iff.mp hsep).2) hcd⟩
  enclosed := by
    rintro name a _ vs hname ⟨rfl, hab⟩
    have hclosed := hab.append (.bare (s := ")") (by decide))
    have hopen : Bare "(" := by decide
    have hboth := (WovenText.bare hname).between hopen hclosed
    refine ⟨rfl, ?_⟩
    simpa [Sql.parenthesized, String.append_assoc] using hboth
  isBlankText_eq h := by rw [h.1]
  isEmpty_eq h := by rw [h.1]
  eq_nil h := h.2.eq_nil
  withoutLeadingOperand := by
    rintro a _ vs ⟨rfl, h⟩
    exact ⟨rfl, h.withoutLeadingOperand⟩
  normalizeSpacing := by
    rintro a _ vs ⟨rfl, h⟩
    exact ⟨rfl, h.normalizeSpacing hsettled⟩

/-! ## Blocks found again -/

/-- The blocks stand in the whole in their order, with anything around them. -/
inductive Interleaved {β : Type} [Append β] : List β → β → Prop
  | gap (whole : β) : Interleaved [] whole
  | block (gap : β) {block rest : β} {blocks : List β} (h : Interleaved blocks rest) :
    Interleaved (block :: blocks) (gap ++ (block ++ rest))

/-- Whatever is read off the parts one after the other is read off the blocks. -/
theorem Woven.interleaved {β : Type} [Append β] {f : List Segment → β}
    (hf : ∀ ps qs, f (ps ++ qs) = f ps ++ f qs) {ps : List Segment} {as : List α}
    (h : Woven Block as ps) : ∃ blocks, List.Forall₂ Block as blocks ∧
      Interleaved (blocks.map fun b => f (enclosed b)) (f ps) := by
  induction h with
  | gap _ => exact ⟨[], .nil, .gap _⟩
  | @block gap block rest a as _ hblock _ ih =>
    obtain ⟨blocks, hblocks, hinter⟩ := ih
    refine ⟨block :: blocks, .cons hblock hblocks, ?_⟩
    rw [hf, hf]
    exact .block (f gap) hinter

/-- The block stands in the parts, in parentheses. -/
def Encloses (ps block : List Segment) : Prop :=
  ∃ before after, ps = before ++ (enclosed block ++ after)

theorem Encloses.trans {ps qs rs : List Segment} (h : Encloses ps qs) (h' : Encloses qs rs) :
    Encloses ps rs := by
  obtain ⟨before, after, rfl⟩ := h
  obtain ⟨before', after', rfl⟩ := h'
  refine ⟨before ++ .plain '(' :: before', after' ++ .plain ')' :: after, ?_⟩
  simp [enclosed]

theorem Woven.exists_encloses {ps : List Segment} {as : List α} (h : Woven Block as ps) {a : α}
    (ha : a ∈ as) : ∃ block, Block a block ∧ Encloses ps block := by
  induction h with
  | gap _ => cases ha
  | @block gap block rest a' as _ hblock _ ih =>
    rcases List.mem_cons.mp ha with rfl | ha
    · exact ⟨block, hblock, gap, rest, rfl⟩
    · obtain ⟨block', hblock', before, after, rfl⟩ := ih ha
      refine ⟨block', hblock', gap ++ (enclosed block ++ before), after, ?_⟩
      simp only [List.append_assoc]

end Sql

end QuerySql
