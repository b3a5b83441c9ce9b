import QuerySql.Proofs.Segments
import QuerySql.Sql.Spacing

/-!
# Respacing, part by part

Respacing scans the characters of a text. On a well-marked text the scan is that of a machine with
two modes: it looks at parts one by one (`Mode.free`), or copies up to the next apostrophe
(`Mode.quoted`). A marked literal that the machine meets in free mode is copied. In quoted mode its
content is scanned like any other text, as after an apostrophe that was never meant as a quote.

* `Mode.respace_cons`: one step of the machine is one step of the scan.
* `Mode.respace_flatMap`: the scan of a well-marked text is the run of the machine on its parts.
* `Marked.normalizeSpacing`: a respaced text is well marked again.
-/

namespace QuerySql.Sql

/-- The text has an apostrophe. -/
def hasQuote (cs : List Char) : Bool := cs.contains '\x27'

/-- What the scan is at: single characters, with what is known of the blanks before them, or a
quoted literal. -/
inductive Mode where
  | free (gap started : Bool)
  | quoted
  deriving DecidableEq

namespace Mode

/-- What is written for a character, and the mode after it; `ahead` says that an apostrophe
follows. -/
def step (ahead : Bool) (c : Char) : Mode → List Char × Mode
  | .free gap started =>
    if Text.isBlank c then ([], .free true started)
    else
      (if gap && started then [' ', c] else [c],
        if c = '\x27' && ahead then .quoted else .free false true)
  | .quoted => ([c], if c = '\x27' then .free false true else .quoted)

/-- What is written for a text, and the mode after it; `ahead` says that an apostrophe follows. -/
def run (ahead : Bool) : Mode → List Char → List Char × Mode
  | m, [] => ([], m)
  | m, c :: cs =>
    let (first, m') := m.step (hasQuote cs || ahead) c
    let (rest, m'') := run ahead m' cs
    (first ++ rest, m'')

/-- The space that is due before a character that is not blank. -/
def due : Mode → List Char
  | .free gap started => if gap && started then [' '] else []
  | .quoted => []

/-- The mode after a character that is neither blank nor an apostrophe. -/
def settled : Mode → Mode
  | .free _ _ => .free false true
  | .quoted => .quoted

/-- A character that is not blank is written after the space that is due. -/
theorem step_free {c : Char} (h : Text.isBlank c = false) (ahead gap started : Bool) :
    (Mode.free gap started).step ahead c =
      ((Mode.free gap started).due ++ [c],
        if c = '\x27' && ahead then .quoted else .free false true) := by
  cases gap <;> cases started <;> simp [step, due, h]

end Mode

/-- Respaces a text from within a quoted literal. -/
def respaceQuoted : List Char → List Char
  | [] => []
  | c :: cs => c :: if c = '\x27' then respace false true 0 cs else respaceQuoted cs

/-- Respaces a text from a mode on. -/
def Mode.respace : Mode → List Char → List Char
  | .free gap started, cs => Sql.respace gap started 0 cs
  | .quoted, cs => respaceQuoted cs

/-- Respaces parts of a text from a mode on. -/
def respaceParts : Mode → List Segment → List Segment
  | _, [] => []
  | m, .plain c :: ps =>
    let (first, m') := m.step (ps.any fun p => hasQuote p.written) c
    first.map .plain ++ respaceParts m' ps
  | .free gap started, .literal b :: ps =>
    (Mode.free gap started).due.map .plain ++ .literal b :: respaceParts (.free false true) ps
  | .quoted, .literal b :: ps =>
    let (b', m) := Mode.quoted.run (ps.any fun p => hasQuote p.written) b
    .literal (b' ++ m.due) :: respaceParts m.settled ps

theorem respaceParts_plain (m : Mode) (c : Char) (ps : List Segment) :
    respaceParts m (.plain c :: ps) =
      (m.step (ps.any fun p => hasQuote p.written) c).1.map .plain ++
        respaceParts (m.step (ps.any fun p => hasQuote p.written) c).2 ps := by
  cases m <;> rfl

/-! ## The scan of characters -/

theorem before?_quote_eq_none {cs : List Char} (h : hasQuote cs = false) :
    Text.before? ['\x27'] cs = none := by
  induction cs with
  | nil => rfl
  | cons c cs ih =>
    simp only [hasQuote, List.contains_cons, Bool.or_eq_false_iff] at h ih
    rw [Text.before?, ih h.2]
    simp [List.isPrefixOf, h.1]

/-- A quoted literal that ends is copied up to the apostrophe that ends it. -/
theorem respace_quoted {cs : List Char} (h : hasQuote cs = true) :
    ∃ pre, Text.before? ['\x27'] cs = some pre ∧
      respace false true (pre.length + 1) cs = respaceQuoted cs := by
  induction cs with
  | nil => cases h
  | cons c cs ih =>
    by_cases hc : c = '\x27'
    · exact ⟨[], by simp [Text.before?, List.isPrefixOf, hc], by simp [respace, respaceQuoted, hc]⟩
    · have hq : hasQuote cs = true := by
        simpa [hasQuote, Ne.symm hc] using h
      obtain ⟨pre, hb, hr⟩ := ih hq
      refine ⟨c :: pre, ?_, ?_⟩
      · simp [Text.before?, List.isPrefixOf, Ne.symm hc, hb]
      · simp [respace, respaceQuoted, hc, hr]

/-- A character that starts neither a marker nor a quoted literal is copied on its own. -/
theorem verbatimLength_plain {c : Char} (cs : List Char) (hc : c ≠ '\x02') (hq : c ≠ '\x27') :
    verbatimLength (c :: cs) = 1 := by
  have hp : openMarker.isPrefixOf (c :: cs) = false := by
    simp [openMarker_eq, List.isPrefixOf, Ne.symm hc]
  unfold verbatimLength
  rw [hp, if_neg Bool.false_ne_true]
  split
  · next rest heq => exact absurd (List.cons.inj heq).1 hq
  · rfl

theorem respace_quote (cs : List Char) :
    respace false true (verbatimLength ('\x27' :: cs) - 1) cs =
      if hasQuote cs then respaceQuoted cs else respace false true 0 cs := by
  unfold verbatimLength
  rw [isPrefixOf_openMarker_plain cs (by decide), if_neg Bool.false_ne_true]
  cases h : hasQuote cs with
  | true =>
    obtain ⟨pre, hb, hr⟩ := respace_quoted h
    simp [hb, hr]
  | false => simp [before?_quote_eq_none h]

/-- One step of the machine is one step of the scan. -/
theorem Mode.respace_cons (m : Mode) {c : Char} (cs : List Char) (hc : isReserved c = false) :
    m.respace (c :: cs) =
      (m.step (hasQuote cs) c).1 ++ (m.step (hasQuote cs) c).2.respace cs := by
  cases m with
  | quoted => by_cases hq : c = '\x27' <;> simp [Mode.respace, Mode.step, respaceQuoted, hq]
  | free gap started =>
    simp only [Mode.respace, Mode.step, Sql.respace]
    by_cases hb : Text.isBlank c
    · simp [hb]
    · simp only [hb, Bool.false_eq_true, if_false]
      by_cases hq : c = '\x27'
      · subst hq
        rw [respace_quote]
        cases hasQuote cs <;> cases gap <;> cases started <;> simp
      · rw [verbatimLength_plain cs (isReserved_eq_false.mp hc).1 hq]
        cases gap <;> cases started <;> simp [hq]

theorem hasQuote_append (cs ds : List Char) :
    hasQuote (cs ++ ds) = (hasQuote cs || hasQuote ds) := by
  simp [hasQuote, List.contains_eq_mem, List.mem_append, Bool.decide_or]

/-- The run of the machine on a text is the scan of the text. -/
theorem Mode.respace_append (m : Mode) (cs ds : List Char)
    (hc : ∀ c ∈ cs, isReserved c = false) :
    m.respace (cs ++ ds) =
      (m.run (hasQuote ds) cs).1 ++ (m.run (hasQuote ds) cs).2.respace ds := by
  induction cs generalizing m with
  | nil => rfl
  | cons c cs ih =>
    rw [List.cons_append, m.respace_cons _ (hc c List.mem_cons_self), hasQuote_append,
      ih _ fun d hd => hc d (List.mem_cons_of_mem _ hd)]
    simp [Mode.run]

/-! ## The scan of parts -/

/-- The characters of the closing marker are ordinary ones: a space that is due goes before it. -/
theorem Mode.respace_closeMarker (m : Mode) (ds : List Char) :
    m.respace (closeMarker ++ ds) = m.due ++ closeMarker ++ m.settled.respace ds := by
  cases m with
  | quoted => simp [Mode.respace, respaceQuoted, closeMarker, Mode.due, Mode.settled]
  | free gap started =>
    have hb : ∀ c ∈ closeMarker, Text.isBlank c = false := by decide
    have hne : ∀ c ∈ closeMarker, c ≠ '\x02' ∧ c ≠ '\x27' := by decide
    have hv : ∀ c ∈ closeMarker, ∀ cs, verbatimLength (c :: cs) = 1 :=
      fun c hc cs => verbatimLength_plain cs (hne c hc).1 (hne c hc).2
    simp only [closeMarker, List.forall_mem_cons] at hb hv
    cases gap <;> cases started <;>
      simp [Mode.respace, Sql.respace, closeMarker, Mode.due, Mode.settled, hb, hv]

theorem respaceQuoted_append {cs : List Char} (ds : List Char) (h : hasQuote cs = false) :
    respaceQuoted (cs ++ ds) = cs ++ respaceQuoted ds := by
  induction cs with
  | nil => rfl
  | cons c cs ih =>
    simp only [hasQuote, List.contains_cons, Bool.or_eq_false_iff, beq_eq_false_iff_ne] at h ih
    simp [respaceQuoted, Ne.symm h.1, ih h.2]

/-- Characters that are to be copied together are copied. -/
theorem respace_verbatim (xs ys : List Char) :
    respace false true xs.length (xs ++ ys) = xs ++ respace false true 0 ys := by
  induction xs with
  | nil => rfl
  | cons x xs ih => simp [respace, ih]

/-- A marked literal is copied in free mode. -/
theorem respace_literal (gap started : Bool) {b : List Char} (ds : List Char)
    (hb : ∀ c ∈ b, isReserved c = false) :
    respace gap started 0 (openMarker ++ b ++ closeMarker ++ ds) =
      (Mode.free gap started).due ++ (openMarker ++ b ++ closeMarker) ++
        respace false true 0 ds := by
  have hm := markedHead?_literal ds hb
  have hp : openMarker.isPrefixOf (openMarker ++ b ++ closeMarker ++ ds) = true := by
    simp [List.isPrefixOf_iff_prefix]
  have hv : verbatimLength (openMarker ++ b ++ closeMarker ++ ds) = markedLength b := by
    unfold verbatimLength
    rw [if_pos hp, hm]
    rfl
  have hl : markedLength b - 1 = (['j', 'q', 'l', ':'] ++ b ++ closeMarker).length := by
    simp [markedLength, openMarker, closeMarker]
    omega
  -- After its first character the literal is copied by its length.
  have hc := respace_verbatim (['j', 'q', 'l', ':'] ++ b ++ closeMarker) ds
  rw [← hl, ← hv] at hc
  simp only [openMarker_eq, List.cons_append] at hc ⊢
  rw [respace, if_neg (by decide)]
  simp only [List.append_assoc, List.cons_append, List.nil_append] at hc ⊢
  cases gap <;> cases started <;> simp [hc, Mode.due]

theorem hasQuote_flatMap (ps : List Segment) :
    hasQuote (ps.flatMap Segment.marked) = ps.any fun p => hasQuote p.written := by
  induction ps with
  | nil => rfl
  | cons p ps ih =>
    rw [List.flatMap_cons, hasQuote_append, ih, List.any_cons]
    congr 1
    cases p with
    | plain c => rfl
    | literal b =>
      have ho : hasQuote openMarker = false := by decide
      have hc : hasQuote closeMarker = false := by decide
      simp [Segment.marked, Segment.written, hasQuote_append, ho, hc]

/-- The scan of a well-marked text is the run of the machine on its parts. -/
theorem Mode.respace_flatMap (m : Mode) {ps : List Segment} (h : ∀ p ∈ ps, p.Unreserved) :
    m.respace (ps.flatMap Segment.marked) = (respaceParts m ps).flatMap Segment.marked := by
  induction ps generalizing m with
  | nil => cases m <;> rfl
  | cons p ps ih =>
    have hp := h p List.mem_cons_self
    have ih := fun m => ih m fun q hq => h q (List.mem_cons_of_mem _ hq)
    have hplain : ∀ cs : List Char, (cs.map Segment.plain).flatMap Segment.marked = cs := by
      intro cs
      simp [List.flatMap_map, Segment.marked]
    cases p with
    | plain c =>
      have hc : isReserved c = false := hp c (by simp [Segment.written])
      simp only [List.flatMap_cons, Segment.marked, List.singleton_append, respaceParts,
        List.flatMap_append, hplain]
      rw [m.respace_cons _ hc, hasQuote_flatMap, ih]
    | literal b =>
      cases m with
      | free gap started =>
        have ih := ih (.free false true)
        simp only [Mode.respace] at ih
        simp only [List.flatMap_cons, Segment.marked, Mode.respace, respaceParts,
          List.flatMap_append, hplain]
        rw [respace_literal gap started (b := b) _ hp, ih]
        simp
      | quoted =>
        have hq : Mode.quoted.respace (openMarker ++ b ++ closeMarker ++
              ps.flatMap Segment.marked) =
            openMarker ++ Mode.quoted.respace (b ++ (closeMarker ++
              ps.flatMap Segment.marked)) := by
          simp only [List.append_assoc]
          exact respaceQuoted_append _ (by decide)
        have hb := Mode.quoted.respace_append b (closeMarker ++ ps.flatMap Segment.marked) hp
        have ha : hasQuote (closeMarker ++ ps.flatMap Segment.marked) =
            ps.any fun p => hasQuote p.written := by
          rw [hasQuote_append, hasQuote_flatMap]
          rfl
        rw [ha, Mode.respace_closeMarker] at hb
        rw [List.flatMap_cons, Segment.marked, hq, hb]
        simp only [respaceParts, List.flatMap_cons, Segment.marked, ih]
        simp

/-! ## Well-marked texts -/

theorem Mode.step_unreserved (m : Mode) (ahead : Bool) {c : Char} (hc : isReserved c = false) :
    ∀ d ∈ (m.step ahead c).1, isReserved d = false := by
  have hs : isReserved ' ' = false := by decide
  cases m with
  | quoted => simp [Mode.step, hc]
  | free gap started =>
    simp only [Mode.step]
    split
    · simp
    · cases gap <;> cases started <;> simp [hc, hs]

theorem Mode.run_unreserved (m : Mode) (ahead : Bool) {cs : List Char}
    (hc : ∀ c ∈ cs, isReserved c = false) : ∀ d ∈ (m.run ahead cs).1, isReserved d = false := by
  induction cs generalizing m with
  | nil => simp [Mode.run]
  | cons c cs ih =>
    intro d hd
    rcases List.mem_append.mp hd with hd | hd
    · exact m.step_unreserved _ (hc c List.mem_cons_self) d hd
    · exact ih _ (fun e he => hc e (List.mem_cons_of_mem _ he)) d hd

theorem Mode.due_unreserved (m : Mode) : ∀ d ∈ m.due, isReserved d = false := by
  cases m with
  | quoted => simp [Mode.due]
  | free gap started => cases gap <;> cases started <;> decide

theorem respaceParts_unreserved (m : Mode) {ps : List Segment} (h : ∀ p ∈ ps, p.Unreserved) :
    ∀ p ∈ respaceParts m ps, p.Unreserved := by
  have hplain : ∀ {cs : List Char}, (∀ c ∈ cs, isReserved c = false) →
      ∀ p ∈ cs.map Segment.plain, p.Unreserved := by
    intro cs hcs p hp
    obtain ⟨c, hc, rfl⟩ := List.mem_map.mp hp
    simpa [Segment.Unreserved, Segment.written] using hcs c hc
  induction ps generalizing m with
  | nil => simp [respaceParts]
  | cons p ps ih =>
    have hp := h p List.mem_cons_self
    have ih := fun m => ih m fun q hq => h q (List.mem_cons_of_mem _ hq)
    cases p with
    | plain c =>
      have hc : isReserved c = false := hp c (by simp [Segment.written])
      intro q hq
      rcases List.mem_append.mp hq with hq | hq
      · exact hplain (m.step_unreserved _ hc) q hq
      · exact ih _ q hq
    | literal b =>
      cases m with
      | free gap started =>
        intro q hq
        rcases List.mem_append.mp hq with hq | hq
        · exact hplain (Mode.due_unreserved _) q hq
        · rcases List.mem_cons.mp hq with rfl | hq
          · exact hp
          · exact ih _ q hq
      | quoted =>
        intro q hq
        rcases List.mem_cons.mp hq with rfl | hq
        · intro d hd
          rcases List.mem_append.mp hd with hd | hd
          · exact Mode.run_unreserved _ _ hp d hd
          · exact Mode.due_unreserved _ d hd
        · exact ih _ q hq

/-- A respaced text is well marked again. -/
theorem Marked.normalizeSpacing {s : String} {parts : List Segment} (h : Marked s parts) :
    Marked (normalizeSpacing s) (respaceParts (.free false false) parts) where
  toList_eq := by
    rw [Sql.normalizeSpacing, String.toList_ofList, h.toList_eq,
      ← Mode.respace_flatMap _ h.unreserved]
    rfl
  unreserved := respaceParts_unreserved _ h.unreserved

end QuerySql.Sql
