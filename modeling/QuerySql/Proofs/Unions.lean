import Mathlib.Data.List.Infix
import Mathlib.Tactic.Choose
import QuerySql.Proofs.Agreement
import QuerySql.Proofs.Guard

/-!
# Unions and their members

The literals of a union are written in or taken out once its members are joined, and the guard looks
at all of them together. This comes to the same as doing it for each member: no marked literal and
no forbidden piece reaches across the word between two members, and a member has the end of a word
on either side, as it has on its own.

* `Clean.intercalate_union_iff`: members are clean together exactly if each of them is.
* `Marked.unmark_append`, `Marked.ofMarked_append`: joined texts are cut at the same places.
* `union_joins_members`: the outcomes of a union are those of its members.
-/

namespace QuerySql

open Compile Sql

/-! ## Forbidden pieces next to the word between members -/

namespace Sql

/-- A forbidden piece with a space in it consists of words with blanks between them: no word of it
has the letter `U`, and it does not end in a blank. -/
theorem Forbidden.of_space_mem {before after : Option Char} {piece : List Char}
    (h : Forbidden before after piece) (hs : ' ' ∈ piece) :
    'U' ∉ piece ∧ piece.getLast? ≠ some ' ' := by
  have hspace : isForeign ' ' = true := by decide
  have hletter : isForeign 'U' = true := by decide
  have hblanks : ∀ {blanks : List Char}, (∀ c ∈ blanks, Text.isBlank c = true) → 'U' ∉ blanks :=
    fun hb hm => absurd (hb _ hm) (by decide)
  cases h with
  | sign h =>
    have hsign : ∀ cs ∈ [[';'], ['-', '-'], ['/', '*'], ['*', '/'], ['\x00']], ' ' ∉ cs := by decide
    exact absurd hs (hsign piece h)
  | version h => exact absurd hs (notMem_of_isForeign hspace (.inl h))
  | numbered hc hd =>
    simp only [List.mem_cons] at hs
    rcases hs with hs | rfl | hs
    · exact absurd hs (by decide)
    · exact absurd hc (by simp [show foldCase ' ' = ' ' by decide])
    · exact absurd (hd _ hs) (by decide)
  | escape hc =>
    simp only [List.mem_cons, List.not_mem_nil, or_false] at hs
    rcases hs with hs | rfl
    · exact absurd hs (by decide)
    · exact absurd hc (by decide)
  | @pair first blanks second hw _ hb =>
    have hsnd := List.mem_map_of_mem (f := Prod.snd) hw
    have hfirst := notMem_of_isForeign hletter (.inr (.inl (List.mem_map_of_mem hw)))
    have hsecond := notMem_of_isForeign hletter (.inr (.inr (.inl hsnd)))
    have hne : ∀ p ∈ deniedPairs, p.2 ≠ [] := by decide
    have hsecond_ne : second ≠ [] := fun h => hne _ hw (by rw [h]; rfl)
    refine ⟨by simp [hfirst, hsecond, hblanks hb], fun hlast => ?_⟩
    rw [List.getLast?_append_of_ne_nil _ hsecond_ne] at hlast
    exact notMem_of_isForeign hspace (.inr (.inr (.inl hsnd))) (List.mem_of_getLast? hlast)
  | call hw hb =>
    have hword := notMem_of_isForeign hletter (.inr (.inr (.inr hw)))
    exact ⟨by simp [hword, hblanks hb], by simp⟩

/-- No forbidden piece starts inside the word between two members. -/
theorem deniedHead?_union_suffix {left right : List Char} (before : Option Char)
    (rest : List Char) (h : " UNION ".toList = left ++ right) (hne : right ≠ []) :
    deniedHead? before (right ++ rest) = none := by
  have htails : " UNION ".toList.tails =
      [[' ', 'U', 'N', 'I', 'O', 'N', ' '], ['U', 'N', 'I', 'O', 'N', ' '],
        ['N', 'I', 'O', 'N', ' '], ['I', 'O', 'N', ' '], ['O', 'N', ' '], ['N', ' '], [' '],
        []] := by decide
  have hsuffix : right ∈ " UNION ".toList.tails := (List.mem_tails _ _).mpr ⟨left, h.symm⟩
  rw [htails] at hsuffix
  simp only [List.mem_cons, List.not_mem_nil, or_false] at hsuffix
  rcases hsuffix with rfl | rfl | rfl | rfl | rfl | rfl | rfl | rfl
  case inr.inr.inr.inr.inr.inr.inr => exact absurd rfl hne
  -- No sign starts with these letters, and a keyword differs in its first or second letter.
  all_goals
    refine (?_ : (if Text.atWordBoundary before _ then keyword? _ else none) = none)
    exact ite_eq_right_iff.mpr fun _ => rfl

/-- A forbidden piece of two joined texts lies in one of them. -/
theorem Forbidden.within_union {a b pre piece post : List Char}
    (h : a ++ " UNION ".toList ++ b = pre ++ piece ++ post)
    (hf : Forbidden pre.getLast? post.head? piece) :
    (∃ post', a = pre ++ piece ++ post' ∧ post = post' ++ " UNION ".toList ++ b) ∨
      ∃ pre', b = pre' ++ piece ++ post ∧ pre = a ++ " UNION ".toList ++ pre' := by
  rw [List.append_assoc, List.append_assoc, List.append_eq_append_iff] at h
  rcases h with ⟨start, rfl, h⟩ | ⟨rest, rfl, h⟩
  · -- The piece starts after `a`, in the word or after it.
    rcases List.append_eq_append_iff.mp h with ⟨pre', rfl, rfl⟩ | ⟨right, hword, hright⟩
    · exact .inr ⟨pre', by simp, by simp⟩
    · by_cases hne : right = []
      · subst hne
        rw [List.append_nil] at hword
        exact .inr ⟨[], by simpa using hright.symm, by simp [hword]⟩
      · have hnone := deniedHead?_union_suffix (a ++ start).getLast? b hword hne
        rw [← hright] at hnone
        have hsome := isSome_deniedHead? hf
        rw [hnone] at hsome
        cases hsome
  · -- The piece starts in `a`; if it went on after it, it would have the space of the word in it.
    rcases List.append_eq_append_iff.mp h with ⟨post', rfl, rfl⟩ | ⟨right, rfl, hright⟩
    · exact .inl ⟨post', by simp, by simp⟩
    · have hword : " UNION ".toList = [' ', 'U'] ++ "NION ".toList := by decide
      rw [hword] at hright
      match right with
      | [] => exact .inl ⟨[], by simp, by rw [hword]; simpa using hright.symm⟩
      | [c] =>
        obtain rfl : ' ' = c := (List.cons.inj hright).1
        exact absurd (by simp) (hf.of_space_mem (by simp)).2
      | c :: d :: right =>
        obtain rfl : ' ' = c := (List.cons.inj hright).1
        obtain rfl : 'U' = d := (List.cons.inj (List.cons.inj hright).2).1
        exact absurd (by simp) (hf.of_space_mem (by simp)).1

theorem Clean.union_iff {s t : String} : Clean (s ++ " UNION " ++ t) ↔ Clean s ∧ Clean t := by
  have hlist : (s ++ " UNION " ++ t).toList = s.toList ++ " UNION ".toList ++ t.toList := by simp
  constructor
  · intro h
    refine ⟨fun pre piece post hs => ?_, fun pre piece post ht => ?_⟩
    · have hsplit : (s ++ " UNION " ++ t).toList =
          [] ++ (pre ++ piece ++ post) ++ (" UNION ".toList ++ t.toList) := by
        rw [hlist, hs]
        simp
      exact h.not_forbidden hsplit rfl (by decide : Text.isWordChar ' ' = false)
    · have hsplit : (s ++ " UNION " ++ t).toList =
          (s.toList ++ " UNION ".toList) ++ (pre ++ piece ++ post) ++ [] := by
        rw [hlist, ht]
        simp
      refine h.not_forbidden hsplit ?_ rfl
      rw [List.getLast?_append_of_ne_nil _ (by decide)]
      exact (by decide : Text.isWordChar ' ' = false)
  · rintro ⟨hs, ht⟩ pre piece post hsplit hf
    rcases hf.within_union (hlist.symm.trans hsplit) with ⟨post', ha, rfl⟩ | ⟨pre', hb, rfl⟩
    · refine hs pre piece post' ha (hf.congr rfl ?_)
      rw [List.append_assoc, List.head?_append, any_or_of_any]
      exact (by decide : Text.isWordChar ' ' = false)
    · refine ht pre' piece post hb (hf.congr ?_ rfl)
      rw [List.getLast?_append, any_or_of_any]
      rw [List.getLast?_append_of_ne_nil _ (by decide)]
      exact (by decide : Text.isWordChar ' ' = false)

/-- Members are clean together exactly if each of them is. -/
theorem Clean.intercalate_union_iff {ss : List String} (hne : ss ≠ []) :
    Clean (" UNION ".intercalate ss) ↔ ∀ s ∈ ss, Clean s := by
  induction ss with
  | nil => exact absurd rfl hne
  | cons s ss ih =>
    cases ss with
    | nil => simp
    | cons t ss =>
      rw [String.intercalate_cons_cons, Clean.union_iff, ih (by simp)]
      exact List.forall_mem_cons.symm

/-! ## The marked texts of the members -/

namespace Marked

variable {s t : String} {ps qs : List Segment}

theorem unmark_append (hs : Marked s ps) (ht : Marked t qs) :
    unmark (s ++ t) = unmark s ++ unmark t := by
  rw [(hs.append ht).unmark_eq, hs.unmark_eq, ht.unmark_eq, List.flatMap_append,
    String.ofList_append]

theorem ofMarked_append (hs : Marked s ps) (ht : Marked t qs) :
    Statement.ofMarked (s ++ t) =
      ⟨(Statement.ofMarked s).sql ++ (Statement.ofMarked t).sql,
        (Statement.ofMarked s).params ++ (Statement.ofMarked t).params⟩ := by
  rw [(hs.append ht).ofMarked_eq, hs.ofMarked_eq, ht.ofMarked_eq, List.map_append,
    List.filterMap_append, String.ofList_append]

theorem unmark_bare (h : hasReserved s = false) : unmark s = s := by
  rw [(Marked.bare h).unmark_eq, flatMap_written_plain, String.ofList_toList]

theorem ofMarked_bare (h : hasReserved s = false) : Statement.ofMarked s = ⟨s, []⟩ := by
  rw [(Marked.bare h).ofMarked_eq]
  simp [Function.comp_def, Segment.placeheld, Segment.bindValue?]

/-- Joined texts are cut where each of them is. -/
theorem intercalate (sep : String) (hsep : hasReserved sep = false) {ss : List String}
    (h : ∀ s ∈ ss, ∃ ps, Marked s ps) :
    (∃ ps, Marked (sep.intercalate ss) ps) ∧
      unmark (sep.intercalate ss) = sep.intercalate (ss.map unmark) ∧
      Statement.ofMarked (sep.intercalate ss) =
        ⟨sep.intercalate (ss.map fun s => (Statement.ofMarked s).sql),
          ss.flatMap fun s => (Statement.ofMarked s).params⟩ := by
  induction ss with
  | nil =>
    have hnil : hasReserved "" = false := by decide
    exact ⟨⟨_, .bare hnil⟩, unmark_bare hnil, ofMarked_bare hnil⟩
  | cons s ss ih =>
    obtain ⟨⟨ps, hs⟩, hss⟩ := List.forall_mem_cons.mp h
    obtain ⟨⟨qs, ht⟩, hunmark, hof⟩ := ih hss
    cases ss with
    | nil => exact ⟨⟨ps, by simpa using hs⟩, by simp, by simp⟩
    | cons t ss =>
      have hstart := hs.append (.bare hsep)
      rw [String.intercalate_cons_cons]
      refine ⟨⟨_, hstart.append ht⟩, ?_, ?_⟩
      · rw [hstart.unmark_append ht, hs.unmark_append (.bare hsep), unmark_bare hsep, hunmark]
        simp only [List.map_cons, String.intercalate_cons_cons]
      · rw [hstart.ofMarked_append ht, hs.ofMarked_append (.bare hsep), ofMarked_bare hsep, hof]
        simp only [List.map_cons, String.intercalate_cons_cons, List.append_nil,
          List.flatMap_cons]

end Marked

end Sql

/-! ## The outcomes of a union -/

/-- Each member has a text and a statement, and those of the union are joined from them. -/
def Options.Joins (options : Options) (members : List Query) : Prop :=
  ∃ (texts : List String) (statements : List Statement),
    List.Forall₂ (fun q text => (options.build q).result = .ok text) members texts ∧
    List.Forall₂ (fun q statement => (options.generate q).result = .ok statement) members
      statements ∧
    (options.buildUnion members).result = .ok (" UNION ".intercalate texts) ∧
    (options.generateUnion members).result =
      .ok ⟨" UNION ".intercalate (statements.map (·.sql)), statements.flatMap (·.params)⟩

/-- A union is rejected exactly if one of its members is. -/
theorem Options.rejects_union (options : Options) {ss : List String} (hne : ss ≠ [])
    (h : ∀ s ∈ ss, ∃ ps, Marked s ps) :
    options.rejects (" UNION ".intercalate ss) = ss.any options.rejects := by
  cases hguard : options.withSanitizedInjection with
  | false => simp [Options.rejects, hguard]
  | true =>
    have hunmark := (Marked.intercalate " UNION " (by decide) h).2.1
    have hclean : options.rejects (" UNION ".intercalate ss) = false ↔
        ∀ s ∈ ss, options.rejects s = false := by
      simp only [options.rejects_eq_false_iff hguard, hunmark]
      rw [Clean.intercalate_union_iff (by simpa using hne)]
      simp
    rw [Bool.eq_iff_iff, ← not_iff_not, Bool.not_eq_true, hclean]
    simp

/-- The marked texts of the members of a union, none of which stops at the limit of depth. -/
structure MemberTexts (options : Options) (members : List Query) (text : Query → String) :
    Prop where
  nonempty : members ≠ []
  markup_eq : ∀ q ∈ members, (markup { limit := options.maxDepth } q).result = .ok (text q)
  statementText : ∀ q ∈ members, ∃ parts, StatementText (text q) parts

/-- Members that stay within the limit of depth have marked texts. -/
theorem exists_memberTexts {options : Options} {members : List Query} (hne : members ≠ [])
    (hq : ∀ q ∈ members, q.Unreserved)
    (hdepth : ∀ q ∈ members, ∀ limit,
      (options.build q).result ≠ .error (.depthExceeded limit)) :
    ∃ text, MemberTexts options members text := by
  have htexts : ∀ q ∈ members, ∃ s, (markup { limit := options.maxDepth } q).result = .ok s ∧
      ∃ parts, StatementText s parts := by
    intro q hm
    have hc : Compiled (markup { limit := options.maxDepth } q).result := compiled_markup (hq q hm)
    have hd := hdepth q hm
    rw [options.result_build] at hd
    generalize (markup { limit := options.maxDepth } q).result = x at hc hd
    cases hc with
    | depth limit => exact absurd rfl (hd limit)
    | text hs => exact ⟨_, rfl, _, hs⟩
  choose! text hmarkup htext using htexts
  exact ⟨text, hne, hmarkup, htext⟩

namespace MemberTexts

variable {options : Options} {members : List Query} {text : Query → String}

theorem build_eq (h : MemberTexts options members text) {q : Query} (hq : q ∈ members) :
    (options.build q).result =
      .ok (if options.rejects (text q) then rejectionText else unmark (text q)) := by
  rw [options.result_build, h.markup_eq q hq]
  rfl

theorem generate_eq (h : MemberTexts options members text) {q : Query} (hq : q ∈ members) :
    (options.generate q).result =
      if options.rejects (text q) then .error .injectionRejected
      else .ok (Statement.ofMarked (text q)) := by
  rw [options.result_generate, h.markup_eq q hq]
  rfl

theorem unionMarkup_eq (h : MemberTexts options members text) :
    (unionMarkup options.maxDepth members).result =
      .ok (" UNION ".intercalate (members.map text)) := by
  have hall : (markups options.maxDepth members).result = .ok (members.map text) :=
    markups_eq_ok_iff.mpr
      (List.forall₂_map_right_iff.mpr (List.forall₂_same.mpr fun q hq => h.markup_eq q hq))
  rw [result_unionMarkup _ h.nonempty, hall]
  rfl

theorem exists_marked (h : MemberTexts options members text) :
    ∀ s ∈ members.map text, ∃ parts, Marked s parts := by
  intro s hs
  obtain ⟨q, hq, rfl⟩ := List.mem_map.mp hs
  obtain ⟨parts, hp⟩ := h.statementText q hq
  exact ⟨parts, hp.marked⟩

/-- A union is rejected exactly if one of its members is. -/
theorem rejects_iff (h : MemberTexts options members text) :
    options.rejects (" UNION ".intercalate (members.map text)) = true ↔
      ∃ q ∈ members, options.rejects (text q) = true := by
  rw [options.rejects_union (by simpa using h.nonempty) h.exists_marked]
  simp

theorem joins (h : MemberTexts options members text)
    (hpass : ∀ q ∈ members, options.rejects (text q) = false) : options.Joins members := by
  have hunion : options.rejects (" UNION ".intercalate (members.map text)) = false := by
    rw [← Bool.not_eq_true, h.rejects_iff]
    rintro ⟨q, hq, hr⟩
    rw [hpass q hq] at hr
    cases hr
  obtain ⟨-, hunmark, hof⟩ := Marked.intercalate " UNION " (by decide) h.exists_marked
  refine ⟨members.map fun q => unmark (text q),
    members.map fun q => Statement.ofMarked (text q), ?_, ?_, ?_, ?_⟩
  · refine List.forall₂_map_right_iff.mpr (List.forall₂_same.mpr fun q hq => ?_)
    rw [h.build_eq hq, hpass q hq]
    rfl
  · refine List.forall₂_map_right_iff.mpr (List.forall₂_same.mpr fun q hq => ?_)
    rw [h.generate_eq hq, hpass q hq]
    rfl
  · rw [options.result_buildUnion, h.unionMarkup_eq, Except.bind, hunion, hunmark, List.map_map]
    rfl
  · rw [options.result_generateUnion, h.unionMarkup_eq, Except.bind, hunion, hof, List.map_map,
      List.map_map, List.flatMap_map, List.flatMap_map]
    rfl

theorem build_eq_rejectionText_iff (h : MemberTexts options members text) {q : Query}
    (hq : q ∈ members) :
    (options.build q).result = .ok rejectionText ↔ options.rejects (text q) = true := by
  obtain ⟨parts, hp⟩ := h.statementText q hq
  rw [h.build_eq hq]
  cases options.rejects (text q) with
  | true => simp
  | false => simp [hp.unmark_ne_rejectionText]

theorem generate_eq_error_iff (h : MemberTexts options members text) {q : Query}
    (hq : q ∈ members) :
    (options.generate q).result = .error .injectionRejected ↔ options.rejects (text q) = true := by
  rw [h.generate_eq hq]
  cases options.rejects (text q) <;> simp

theorem buildUnion_eq_rejectionText_iff (h : MemberTexts options members text)
    (hq : ∀ q ∈ members, q.Unreserved) :
    (options.buildUnion members).result = .ok rejectionText ↔
      ∃ q ∈ members, options.rejects (text q) = true := by
  have hc : Compiled (unionMarkup options.maxDepth members).result :=
    compiled_unionMarkup h.nonempty hq
  rw [h.unionMarkup_eq] at hc
  cases hc with
  | text hp =>
    rw [options.result_buildUnion, h.unionMarkup_eq, Except.bind, ← h.rejects_iff]
    cases options.rejects (" UNION ".intercalate (members.map text)) with
    | true => simp
    | false => simp [hp.unmark_ne_rejectionText]

theorem generateUnion_eq_error_iff (h : MemberTexts options members text) :
    (options.generateUnion members).result = .error .injectionRejected ↔
      ∃ q ∈ members, options.rejects (text q) = true := by
  rw [options.result_generateUnion, h.unionMarkup_eq, Except.bind, ← h.rejects_iff]
  cases options.rejects (" UNION ".intercalate (members.map text)) <;> simp

end MemberTexts

/-- The outcomes of a union are those of its members: the texts and the values are joined, and one
member that the guard rejects is enough to reject the union. -/
theorem union_joins_members {options : Options} {members : List Query} (hne : members ≠ [])
    (hq : ∀ q ∈ members, q.Unreserved)
    (hdepth : ∀ q ∈ members, ∀ limit,
      (options.build q).result ≠ .error (.depthExceeded limit)) :
    (options.withSanitizedInjection = false → options.Joins members) ∧
      (options.withSanitizedInjection = true →
        ((options.buildUnion members).result = .ok rejectionText ↔
          ∃ q ∈ members, (options.build q).result = .ok rejectionText) ∧
        ((options.generateUnion members).result = .error .injectionRejected ↔
          ∃ q ∈ members, (options.generate q).result = .error .injectionRejected) ∧
        ((∀ q ∈ members, (options.build q).result ≠ .ok rejectionText) →
          options.Joins members)) := by
  obtain ⟨text, h⟩ := exists_memberTexts hne hq hdepth
  refine ⟨fun hoff => h.joins fun q _ => by simp [Options.rejects, hoff], fun _ => ⟨?_, ?_, ?_⟩⟩
  · rw [h.buildUnion_eq_rejectionText_iff hq]
    exact exists_congr fun q => and_congr_right fun hm => (h.build_eq_rejectionText_iff hm).symm
  · rw [h.generateUnion_eq_error_iff]
    exact exists_congr fun q => and_congr_right fun hm => (h.generate_eq_error_iff hm).symm
  · intro hpass
    refine h.joins fun q hm => ?_
    rw [← Bool.not_eq_true, ← h.build_eq_rejectionText_iff hm]
    exact hpass q hm

theorem union_joins_members_rowsOfOwner :
    Options.Joins {} [rowsOfOwner (.str "drop") 5, rowsOfOwner (.str "x; y") 7] ∧
      (Options.buildUnion { withSanitizedInjection := true }
        [rowsOfOwner (.str "drop") 5, rowsOfOwner (.str "x; y") 7]).result = .ok rejectionText := by
  have hq : ∀ q ∈ [rowsOfOwner (.str "drop") 5, rowsOfOwner (.str "x; y") 7], q.Unreserved := by
    decide +kernel
  have hplain : ∀ q ∈ [rowsOfOwner (.str "drop") 5, rowsOfOwner (.str "x; y") 7],
      (Options.build {} q).result.isOk = true := by decide +kernel
  have hguarded : ∀ q ∈ [rowsOfOwner (.str "drop") 5, rowsOfOwner (.str "x; y") 7],
      (Options.build { withSanitizedInjection := true } q).result.isOk = true := by decide +kernel
  have hrejected : (Options.build { withSanitizedInjection := true }
      (rowsOfOwner (.str "x; y") 7)).result = .ok rejectionText :=
    eq_ok_of_toOption (by decide +kernel)
  refine ⟨(union_joins_members (by simp) hq fun q hm limit he => ?_).1 rfl, ?_⟩
  · have := hplain q hm
    rw [he] at this
    cases this
  · refine ((union_joins_members (by simp) hq fun q hm limit he => ?_).2 rfl).1.mpr
      ⟨_, by simp, hrejected⟩
    have := hguarded q hm
    rw [he] at this
    cases this

end QuerySql
