import QuerySql.Proofs.Characters
import QuerySql.Query.Document
import QuerySql.Sql.Marker
import QuerySql.Text.Blank

/-!
# Well-marked texts

A text is well marked if it consists of plain characters and marked literals, and no reserved
character stands in either of them. The markers hold the only reserved characters then, so both
passes over the text cut it at the same places.

* `Marked s parts`: the text `s` consists of `parts`.
* `Marked.segments_eq`: taking the literals out of a well-marked text finds its parts.
* `Marked.unmark_eq`: leaving the markers out writes its parts one after the other.
-/

namespace QuerySql

namespace Text

/-! ## Patterns that end in a character of their own -/

/-- A pattern that ends in `z` is no prefix of a text that has `z` only further to the right. -/
theorem not_isPrefixOf_of_notMem {u xs rest : List Char} {z : Char} (hx : z ∉ xs)
    (hlen : u.length < xs.length) : (u ++ [z]).isPrefixOf (xs ++ rest) = false := by
  rw [Bool.eq_false_iff, ne_eq, List.isPrefixOf_iff_prefix]
  rintro ⟨t, ht⟩
  have hz : (xs ++ rest)[u.length]? = some z := by
    rw [← ht]
    simp
  rw [List.getElem?_append_left hlen] at hz
  exact hx (List.mem_of_getElem? hz)

/-- The first occurrence of a pattern `u ++ [z]` ends at the first `z`. -/
theorem before?_append {u b rest : List Char} {z : Char} (hu : z ∉ u) (hb : z ∉ b) :
    before? (u ++ [z]) (b ++ (u ++ [z]) ++ rest) = some b := by
  induction b with
  | nil =>
    cases u with
    | nil => simp [before?]
    | cons c u => simp [before?, List.isPrefixOf_iff_prefix]
  | cons c b ih =>
    have hnot : (u ++ [z]).isPrefixOf (c :: b ++ (u ++ [z]) ++ rest) = false := by
      have hlen : u.length < (c :: b ++ u).length := by
        rw [List.length_append, List.length_cons]
        omega
      have h : (u ++ [z]).isPrefixOf ((c :: b ++ u) ++ z :: rest) = false :=
        not_isPrefixOf_of_notMem (by simp_all) hlen
      simpa using h
    simp only [List.cons_append] at hnot ⊢
    simp only [List.mem_cons, not_or] at hb
    rw [before?, hnot, ih hb.2]
    rfl

theorem withoutFrom_skip (pat xs ys : List Char) :
    withoutFrom pat xs.length (xs ++ ys) = withoutFrom pat 0 ys := by
  induction xs with
  | nil => rfl
  | cons x xs ih => simpa [withoutFrom] using ih

/-- An occurrence at the head of the text is left out. -/
theorem without_append_self (c : Char) (u ys : List Char) :
    without (c :: u) (c :: u ++ ys) = without (c :: u) ys := by
  have hp : (c :: u).isPrefixOf (c :: (u ++ ys)) = true := by
    simp [List.isPrefixOf_iff_prefix, List.prefix_append]
  simp only [without, List.cons_append]
  rw [withoutFrom, if_pos hp]
  simpa using withoutFrom_skip (c :: u) u ys

theorem without_cons_of_not {pat cs : List Char} {c : Char}
    (h : pat.isPrefixOf (c :: cs) = false) : without pat (c :: cs) = c :: without pat cs := by
  simp [without, withoutFrom, h]

/-- Nothing is left out up to the first character of the pattern. -/
theorem without_append_of_notMem {c : Char} {u cs : List Char} (h : c ∉ cs) (rest : List Char) :
    without (c :: u) (cs ++ rest) = cs ++ without (c :: u) rest := by
  induction cs with
  | nil => rfl
  | cons d cs ih =>
    rw [List.mem_cons, not_or] at h
    have hnot : (c :: u).isPrefixOf (d :: (cs ++ rest)) = false := by
      simp [List.isPrefixOf, h.1]
    rw [List.cons_append, without_cons_of_not hnot, ih h.2, List.cons_append]

/-- Without the last character of the pattern there is nothing to leave out. -/
theorem without_eq_self {u xs : List Char} {z : Char} (hx : z ∉ xs) :
    without (u ++ [z]) xs = xs := by
  induction xs with
  | nil => rfl
  | cons c xs ih =>
    have hnot : (u ++ [z]).isPrefixOf (c :: xs) = false := by
      rw [Bool.eq_false_iff, ne_eq, List.isPrefixOf_iff_prefix]
      exact fun hp => hx (hp.subset (by simp))
    rw [without_cons_of_not hnot, ih (fun h => hx (List.mem_cons_of_mem _ h))]

/-- Up to the first `z` there is exactly one occurrence of `u ++ [z]` to leave out. -/
theorem without_append_pattern {u xs : List Char} {z : Char} (rest : List Char) (hu : z ∉ u)
    (hx : z ∉ xs) :
    without (u ++ [z]) (xs ++ (u ++ [z]) ++ rest) = xs ++ without (u ++ [z]) rest := by
  induction xs with
  | nil =>
    cases u with
    | nil => exact without_append_self z [] rest
    | cons c u => exact without_append_self c (u ++ [z]) rest
  | cons c xs ih =>
    have hnot : (u ++ [z]).isPrefixOf (c :: (xs ++ (u ++ [z]) ++ rest)) = false := by
      have hlen : u.length < (c :: xs ++ u).length := by
        rw [List.length_append, List.length_cons]
        omega
      have h : (u ++ [z]).isPrefixOf ((c :: xs ++ u) ++ z :: rest) = false :=
        not_isPrefixOf_of_notMem (by simp_all) hlen
      simpa using h
    simp only [List.cons_append]
    rw [without_cons_of_not hnot, ih (fun h => hx (List.mem_cons_of_mem _ h))]

end Text

namespace Sql

/-! ## The parts of a text -/

/-- The characters of a part, markers included. -/
def Segment.marked : Segment → List Char
  | .plain c => [c]
  | .literal content => openMarker ++ content ++ closeMarker

/-- The characters of a part, markers left out. -/
def Segment.written : Segment → List Char
  | .plain c => [c]
  | .literal content => content

/-- No reserved character stands in the part. -/
def Segment.Unreserved (p : Segment) : Prop := ∀ c ∈ p.written, isReserved c = false

/-- The text consists of the given parts, which hold no reserved characters. -/
structure Marked (s : String) (parts : List Segment) : Prop where
  toList_eq : s.toList = parts.flatMap Segment.marked
  unreserved : ∀ p ∈ parts, p.Unreserved

theorem isReserved_eq_false {c : Char} : isReserved c = false ↔ c ≠ '\x02' ∧ c ≠ '\x03' := by
  simp [isReserved]

theorem openMarker_eq : openMarker = '\x02' :: ['j', 'q', 'l', ':'] := rfl

theorem closeMarker_eq : closeMarker = [':', 'j', 'q', 'l'] ++ ['\x03'] := rfl

/-- The character that closes a marker stands in no unreserved text. -/
theorem close_notMem {cs : List Char} (h : ∀ c ∈ cs, isReserved c = false) : '\x03' ∉ cs :=
  fun hm => (isReserved_eq_false.mp (h _ hm)).2 rfl

theorem markedHead?_literal {b : List Char} (rest : List Char)
    (h : ∀ c ∈ b, isReserved c = false) :
    markedHead? (openMarker ++ b ++ closeMarker ++ rest) = some b := by
  have hp : openMarker.isPrefixOf (openMarker ++ b ++ closeMarker ++ rest) = true := by
    simp [List.isPrefixOf_iff_prefix]
  have hd : (openMarker ++ b ++ closeMarker ++ rest).drop openMarker.length =
      b ++ closeMarker ++ rest := by simp
  rw [markedHead?, if_pos hp, hd, closeMarker_eq]
  exact Text.before?_append (by decide) (close_notMem h)

theorem isPrefixOf_openMarker_plain {c : Char} (cs : List Char) (h : isReserved c = false) :
    openMarker.isPrefixOf (c :: cs) = false := by
  have hc : ('\x02' == c) = false := by
    simpa using fun e => (isReserved_eq_false.mp h).1 e.symm
  simp [openMarker_eq, List.isPrefixOf, hc]

theorem segmentsFrom_skip (xs ys : List Char) :
    segmentsFrom xs.length (xs ++ ys) = segmentsFrom 0 ys := by
  induction xs with
  | nil => rfl
  | cons x xs ih => simpa [segmentsFrom] using ih

theorem segmentsFrom_literal {b : List Char} (rest : List Char)
    (h : ∀ c ∈ b, isReserved c = false) :
    segmentsFrom 0 (openMarker ++ b ++ closeMarker ++ rest) =
      .literal b :: segmentsFrom 0 rest := by
  have hm := markedHead?_literal rest h
  rw [openMarker_eq] at hm ⊢
  simp only [List.cons_append] at hm ⊢
  rw [segmentsFrom, hm]
  simp only [List.cons.injEq, true_and]
  have hs := segmentsFrom_skip (['j', 'q', 'l', ':'] ++ b ++ closeMarker) rest
  have hl : markedLength b - 1 = (['j', 'q', 'l', ':'] ++ b ++ closeMarker).length := by
    simp [markedLength, openMarker, closeMarker]
    omega
  simpa [hl] using hs

theorem segmentsFrom_flatMap {parts : List Segment} (h : ∀ p ∈ parts, p.Unreserved) :
    segmentsFrom 0 (parts.flatMap Segment.marked) = parts := by
  induction parts with
  | nil => rfl
  | cons p parts ih =>
    have hp := h p List.mem_cons_self
    have ih := ih fun q hq => h q (List.mem_cons_of_mem _ hq)
    cases p with
    | plain c =>
      have hc : isReserved c = false := hp c (by simp [Segment.written])
      simp only [List.flatMap_cons, Segment.marked, List.singleton_append]
      rw [segmentsFrom, markedHead?, isPrefixOf_openMarker_plain _ hc]
      simp [ih]
    | literal b =>
      rw [List.flatMap_cons, Segment.marked, segmentsFrom_literal (b := b) _ hp, ih]

/-- The characters of a part, the marker after a literal included. -/
def Segment.halfMarked : Segment → List Char
  | .plain c => [c]
  | .literal content => content ++ closeMarker

theorem without_openMarker {parts : List Segment} (h : ∀ p ∈ parts, p.Unreserved) :
    Text.without openMarker (parts.flatMap Segment.marked) =
      parts.flatMap Segment.halfMarked := by
  induction parts with
  | nil => rfl
  | cons p parts ih =>
    have hp := h p List.mem_cons_self
    have ih := ih fun q hq => h q (List.mem_cons_of_mem _ hq)
    have hw : '\x02' ∉ p.written := fun hm => (isReserved_eq_false.mp (hp _ hm)).1 rfl
    cases p with
    | plain c =>
      have hr := Text.without_append_of_notMem (u := ['j', 'q', 'l', ':']) hw
        (parts.flatMap Segment.marked)
      rw [← openMarker_eq, ih] at hr
      simpa [Segment.marked, Segment.halfMarked, Segment.written] using hr
    | literal b =>
      have hb : '\x02' ∉ b ++ closeMarker :=
        fun hm => (List.mem_append.mp hm).elim hw (by decide)
      have hr := Text.without_append_of_notMem (u := ['j', 'q', 'l', ':']) hb
        (parts.flatMap Segment.marked)
      simp only [List.flatMap_cons, Segment.marked, Segment.halfMarked, List.append_assoc] at hr ⊢
      rw [openMarker_eq, Text.without_append_self, hr, ← openMarker_eq, ih]

/-- `xs` are the characters since the last marker: an occurrence of a marker could begin among
them, but ends only at a reserved character. -/
theorem without_closeMarker {parts : List Segment} (h : ∀ p ∈ parts, p.Unreserved)
    (xs : List Char) (hx : '\x03' ∉ xs) :
    Text.without closeMarker (xs ++ parts.flatMap Segment.halfMarked) =
      xs ++ parts.flatMap Segment.written := by
  induction parts generalizing xs with
  | nil =>
    rw [List.flatMap_nil, List.append_nil, closeMarker_eq, Text.without_eq_self hx]
    exact (List.append_nil xs).symm
  | cons p parts ih =>
    have hp := close_notMem (h p List.mem_cons_self)
    have ih := ih fun q hq => h q (List.mem_cons_of_mem _ hq)
    have hxp : '\x03' ∉ xs ++ p.written := by simp_all
    cases p with
    | plain c =>
      have := ih _ hxp
      simpa [Segment.halfMarked, Segment.written] using this
    | literal b =>
      have hr := Text.without_append_pattern (u := [':', 'j', 'q', 'l'])
        (parts.flatMap Segment.halfMarked) (by decide) hxp
      have h0 := ih [] (by simp)
      rw [← closeMarker_eq] at hr
      simp only [List.nil_append, List.flatMap_cons, Segment.halfMarked, Segment.written,
        List.append_assoc] at h0 hr ⊢
      rw [hr, h0]

theorem flatMap_written_plain (cs : List Char) :
    (cs.map Segment.plain).flatMap Segment.written = cs := by
  simp [List.flatMap_map, Segment.written]

namespace Marked

variable {s : String} {parts : List Segment}

theorem eq_ofList (h : Marked s parts) : s = String.ofList (parts.flatMap Segment.marked) := by
  rw [← h.toList_eq, String.ofList_toList]

/-- The two passes cut a well-marked text at the same places: its parts. -/
theorem segments_eq (h : Marked s parts) : segments s = parts := by
  rw [segments, h.toList_eq, segmentsFrom_flatMap h.unreserved]

theorem unmark_eq (h : Marked s parts) :
    unmark s = String.ofList (parts.flatMap Segment.written) := by
  have hc := without_closeMarker h.unreserved [] (by simp)
  simp only [List.nil_append] at hc
  rw [unmark, h.toList_eq, without_openMarker h.unreserved, hc]

theorem ofMarked_eq (h : Marked s parts) :
    Statement.ofMarked s =
      ⟨String.ofList (parts.map Segment.placeheld), parts.filterMap Segment.bindValue?⟩ := by
  rw [Statement.ofMarked, h.segments_eq]

/-! ## Putting texts together -/

/-- A text without reserved characters has only plain parts. -/
theorem bare (h : hasReserved s = false) : Marked s (s.toList.map .plain) where
  toList_eq := by simp [List.flatMap_map, Segment.marked]
  unreserved := by
    intro p hp
    obtain ⟨c, hc, rfl⟩ := List.mem_map.mp hp
    rw [hasReserved, List.any_eq_false] at h
    simpa [Segment.Unreserved, Segment.written] using h c hc

theorem mark (h : hasReserved s = false) : Marked (mark s) [.literal s.toList] where
  toList_eq := by simp [Sql.mark, Segment.marked]
  unreserved := by
    intro p hp
    rw [List.mem_singleton] at hp
    subst hp
    rw [hasReserved, List.any_eq_false] at h
    intro c hc
    simpa using h c hc

theorem append {t : String} {qs : List Segment} (h : Marked s parts) (ht : Marked t qs) :
    Marked (s ++ t) (parts ++ qs) where
  toList_eq := by rw [String.toList_append, h.toList_eq, ht.toList_eq, List.flatMap_append]
  unreserved := List.forall_mem_append.mpr ⟨h.unreserved, ht.unreserved⟩

end Marked

/-- The part is a blank character. -/
def Segment.isBlank : Segment → Bool
  | .plain c => Text.isBlank c
  | .literal _ => false

end Sql

end QuerySql
