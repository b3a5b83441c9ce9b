import QuerySql.Compile.Markup
import QuerySql.Proofs.Characters

/-!
# What texts are assembled from

Whatever a statement says, its text is assembled in a few ways: texts are joined with a separator
between them or put in parentheses, blank ones are left out, an operand is taken off a filter, and
every statement is respaced. A relation between two texts and what is collected for them may be kept
by these ways, with what is collected put together in the order of the texts. Then all the clauses
of a statement keep it.

* `isPhrase`: words and signs that a statement has of its own.
* `Assembly`: the laws of a relation that is kept by the ways of putting texts together.
* `Assembly.select_clauses`: it is then kept by the assembly of a statement from its clauses.
* `FragmentRelation R`: the laws where nothing is collected.
-/

namespace QuerySql

/-- A character that stands next to a literal in SQL text. -/
def isDelimiter (c : Char) : Bool := [' ', ',', '(', ')'].contains c

/-- The text parts what stands on either side of it from each other. -/
def isSeparator (s : String) : Bool :=
  !hasReserved s && s.toList.head?.any isDelimiter && s.toList.getLast?.any isDelimiter

open Compile Sql

/-- No reserved character, apostrophe or parenthesis stands in the text. -/
def isPhrase (s : String) : Bool :=
  s.toList.all fun c => !isReserved c && !(['\x27', '(', ')'].contains c)

/-- The phrase parts what stands on either side of it from each other. -/
def isJoint (s : String) : Bool := isSeparator s && isPhrase s

theorem unreserved_of_isPhrase {s : String} (h : isPhrase s = true) :
    hasReserved s = false ∧ '\x27' ∉ s.toList := by
  simp only [isPhrase, List.all_eq_true, Bool.and_eq_true, Bool.not_eq_true'] at h
  refine ⟨hasReserved_eq_false.mpr fun c hc => (h c hc).1, fun hm => ?_⟩
  exact absurd (h _ hm).2 (by decide)

variable {α : Type}

/-- A relation between two texts and what is collected for them is kept by the ways of putting texts
together. A text with property `B` may stand bare in both and has nothing to collect. -/
structure Assembly (group : List α → List α) (B : String → Prop)
    (R : String → String → List α → Prop) : Prop where
  phrase {s : String} : isPhrase s = true → B s
  append {s t : String} : B s → B t → B (s ++ t)
  uppercase {s : String} : B s → B (Text.uppercase s)
  bare {s : String} : B s → R s s []
  joined (sep : String) {a b c d : String} {vs ws : List α} : isJoint sep = true → R a b vs →
    R c d ws → R (a ++ sep ++ c) (b ++ sep ++ d) (vs ++ ws)
  enclosed {name a b : String} {vs : List α} : B name → R a b vs →
    R (name ++ parenthesized a) (name ++ parenthesized b) (group vs)
  isBlankText_eq {a b : String} {vs : List α} : R a b vs →
    Text.isBlankText a = Text.isBlankText b
  isEmpty_eq {a b : String} {vs : List α} : R a b vs → a.isEmpty = b.isEmpty
  eq_nil {a b : String} {vs : List α} : R a b vs → Text.isBlankText a = true → vs = []
  withoutLeadingOperand {a b : String} {vs : List α} : R a b vs →
    R (withoutLeadingOperand a) (withoutLeadingOperand b) vs
  normalizeSpacing {a b : String} {vs : List α} : R a b vs →
    R (normalizeSpacing a) (normalizeSpacing b) vs

/-- The texts are related one by one, and what is collected for them is put together in order. -/
inductive RelatedAll (R : String → String → List α → Prop) :
    List String → List String → List α → Prop
  | nil : RelatedAll R [] [] []
  | cons {a b : String} {as bs : List String} {vs ws : List α} (h : R a b vs)
      (hs : RelatedAll R as bs ws) : RelatedAll R (a :: as) (b :: bs) (vs ++ ws)

namespace RelatedAll

variable {R : String → String → List α → Prop} {as bs : List String} {vs : List α}

theorem single {a b : String} (h : R a b vs) : RelatedAll R [a] [b] vs := by
  have hall := RelatedAll.cons h .nil
  rwa [List.append_nil] at hall

theorem append {cs ds : List String} {ws : List α} (h : RelatedAll R as bs vs)
    (h' : RelatedAll R cs ds ws) : RelatedAll R (as ++ cs) (bs ++ ds) (vs ++ ws) := by
  induction h with
  | nil => exact h'
  | cons hab _ ih =>
    rw [List.append_assoc]
    exact .cons hab ih

/-- Texts for which nothing is collected can be left out on both sides. -/
theorem filter {p : String → Bool} (hp : ∀ {a b vs}, R a b vs → p a = p b)
    (hnil : ∀ {a b vs}, R a b vs → p a = false → vs = []) (h : RelatedAll R as bs vs) :
    RelatedAll R (as.filter p) (bs.filter p) vs := by
  induction h with
  | nil => exact .nil
  | @cons a b as bs vs ws hab _ ih =>
    rw [List.filter_cons, List.filter_cons, ← hp hab]
    split
    · exact .cons hab ih
    · next hpa =>
      rw [hnil hab (by simpa using hpa)]
      exact ih

end RelatedAll

namespace Assembly

variable {group : List α → List α} {B : String → Prop} {R : String → String → List α → Prop}
  (h : Assembly group B R)

include h

theorem word {s : String} (hs : isPhrase s = true) : R s s [] := h.bare (h.phrase hs)

theorem empty : R "" "" [] := h.word (by decide)

/-! ## Joining -/

theorem intercalate (sep : String) (hsep : isJoint sep = true) {as bs : List String} {vs : List α}
    (hall : RelatedAll R as bs vs) : R (sep.intercalate as) (sep.intercalate bs) vs := by
  induction hall with
  | nil => simpa using h.empty
  | @cons a b as bs vs ws hab htail ih =>
    cases htail with
    | nil => simpa using hab
    | cons =>
      rw [String.intercalate_cons_cons, String.intercalate_cons_cons]
      exact h.joined sep hsep hab ih

theorem joinFragments (sep : String) (hsep : isJoint sep = true) {as bs : List String}
    {vs : List α} (hall : RelatedAll R as bs vs) :
    R (joinFragments sep as) (joinFragments sep bs) vs :=
  h.intercalate sep hsep (hall.filter (fun hab => by rw [h.isBlankText_eq hab])
    fun hab hp => h.eq_nil hab (by simpa using hp))

theorem joinNonempty (sep : String) (hsep : isJoint sep = true) {as bs : List String}
    {vs : List α} (hall : RelatedAll R as bs vs) :
    R (joinNonempty sep as) (joinNonempty sep bs) vs := by
  refine h.intercalate sep hsep
    (hall.filter (fun hab => by rw [h.isEmpty_eq hab]) fun {a b vs} hab hp => ?_)
  have hempty : a = "" := by simpa using hp
  refine h.eq_nil hab ?_
  rw [hempty]
  decide

theorem bares {xs : List String} (hxs : ∀ x ∈ xs, B x) : RelatedAll R xs xs [] := by
  induction xs with
  | nil => exact .nil
  | cons x xs ih =>
    exact .cons (h.bare (hxs x List.mem_cons_self))
      (ih fun y hy => hxs y (List.mem_cons_of_mem _ hy))

/-- A word before a text. -/
theorem keyword {k a b : String} {vs : List α} (hk : isPhrase k = true) (hab : R a b vs) :
    R (k ++ " " ++ a) (k ++ " " ++ b) vs :=
  h.joined " " (by decide) (h.word hk) hab

theorem parenthesized {a b : String} {vs : List α} (hab : R a b vs) :
    R (parenthesized a) (parenthesized b) (group vs) := by
  have henclosed := h.enclosed (h.phrase (s := "") (by decide)) hab
  rwa [String.empty_append, String.empty_append] at henclosed

theorem callText {name a b : String} {vs : List α} (hn : B name) (hab : R a b vs) :
    R (callText name a) (callText name b) (group vs) :=
  h.enclosed (h.uppercase hn) hab

/-! ## Conditions -/

theorem name_operator (operator : Operator) : R operator.name operator.name [] :=
  h.word (by cases operator <;> decide)

theorem prefixed (operand : Option Operand) {as bs : List String} {vs : List α}
    (hall : RelatedAll R as bs vs) : R (prefixed operand as) (prefixed operand bs) vs := by
  refine h.joinFragments " " (by decide) ?_
  cases operand with
  | none => exact hall
  | some operand =>
    have hword : R operand.keyword operand.keyword [] := h.word (by cases operand <;> decide)
    exact .cons hword hall

theorem applied (operator : Operator) {a b : String} {vs : List α} (hab : R a b vs) :
    R (applied operator a) (applied operator b) vs :=
  h.joinFragments " " (by decide) (.cons (h.name_operator operator) (.single hab))

theorem branchText {c c' e e' r r' : String} {us vs ws : List α} (hc : R c c' us) (he : R e e' vs)
    (hr : R r r' ws) : R (branchText c e r) (branchText c' e' r') (us ++ vs ++ ws) := by
  have hpair := h.joinFragments " " (by decide) (.cons hc (.single he))
  have hwhen := h.keyword (k := "WHEN") (by decide) hpair
  exact h.joined " THEN " (by decide) hwhen hr

theorem caseText {b b' d d' : String} {vs ws : List α} (hb : R b b' vs) (hd : R d d' ws) :
    R (caseText b d) (caseText b' d') (vs ++ ws) := by
  have helse : R (if Text.isBlankText d then "" else "ELSE " ++ d)
      (if Text.isBlankText d' then "" else "ELSE " ++ d') ws := by
    rw [← h.isBlankText_eq hd]
    split
    · next hblank =>
      rw [h.eq_nil hd hblank]
      exact h.empty
    · exact h.keyword (k := "ELSE") (by decide) hd
  have hcase := h.word (s := "CASE") (by decide)
  have hend := h.word (s := "END") (by decide)
  have hall := (RelatedAll.single hcase).append ((RelatedAll.single hb).append
    ((RelatedAll.single helse).append (.single hend)))
  rw [List.nil_append, List.append_nil] at hall
  exact h.joinFragments " " (by decide) hall

/-! ## Clauses -/

theorem aliased {a b : String} {vs : List α} {name : Option String} (hn : ∀ n ∈ name, B n)
    (hab : R a b vs) : R (aliased a name) (aliased b name) vs := by
  cases name with
  | none => exact hab
  | some n =>
    have has := h.joined " AS " (by decide) hab (h.bare (hn n rfl))
    rwa [List.append_nil] at has

theorem filterClause {k a b : String} {vs : List α} (hk : isPhrase k = true) (hab : R a b vs) :
    R (filterClause k a) (filterClause k b) vs := by
  have hw := h.withoutLeadingOperand hab
  simp only [Compile.filterClause]
  rw [← h.isBlankText_eq hw]
  split
  · next hblank =>
    rw [h.eq_nil hw hblank]
    exact h.empty
  · exact h.keyword hk hw

theorem optionalClause {k : String} {a b : Option String} {vs : List α} (hk : isPhrase k = true)
    (hab : RelatedAll R a.toList b.toList vs) : R (optionalClause k a) (optionalClause k b) vs := by
  match a, b with
  | none, none =>
    cases hab
    exact h.empty
  | some a, some b =>
    cases hab with
    | cons hab hnil =>
      cases hnil
      rw [List.append_nil]
      exact h.keyword hk hab

theorem orderClause {sorting : Option SortOrder} (hs : ∀ o ∈ sorting, ∀ f ∈ o.fields, B f) :
    R (orderClause sorting) (orderClause sorting) [] := by
  cases sorting with
  | none => exact h.empty
  | some order =>
    have hfields := h.intercalate ", " (by decide) (h.bares (hs order rfl))
    have horder := h.keyword (k := "ORDER BY") (by decide) hfields
    simp only [Compile.orderClause]
    split
    · exact h.empty
    · cases order.direction with
      | none => exact horder
      | some direction =>
        exact h.joined " " (by decide) horder
          (h.word (by cases direction <;> decide))

theorem columns {as bs : List String} {vs : List α} (hall : RelatedAll R as bs vs) :
    R (if as.isEmpty then "*" else Compile.joinNonempty ", " as)
      (if bs.isEmpty then "*" else Compile.joinNonempty ", " bs) vs := by
  cases hall with
  | nil => exact h.word (by decide)
  | cons hab htail => exact h.joinNonempty ", " (by decide) (.cons hab htail)

theorem joinText {join : Join} {left right : String} (htable : B join.table) (hleft : B left)
    (hright : B right) :
    B (join.kind.keyword ++ " " ++ join.table ++ " ON " ++ left ++ " = " ++ right) := by
  have hkind : B join.kind.keyword := h.phrase (by cases join.kind <;> decide)
  have hstart := h.append (h.append hkind (h.phrase (s := " ") (by decide))) htable
  have hon := h.append (h.append hstart (h.phrase (s := " ON ") (by decide))) hleft
  exact h.append (h.append hon (h.phrase (s := " = ") (by decide))) hright

/-- The relation is kept by the assembly of a statement from its clauses, and what is collected for
them is put together in the order of the clauses. -/
theorem select_clauses {s t : Select} {cs ws hs ls os : List α} (htable : t.table = s.table)
    (hjoins : t.joins = s.joins) (hgrouping : t.grouping = s.grouping)
    (hsorting : t.sorting = s.sorting) (table_ok : B s.table) (joins_ok : ∀ j ∈ s.joins, B j)
    (grouping_ok : ∀ g ∈ s.grouping, B g) (sorting_ok : ∀ o ∈ s.sorting, ∀ f ∈ o.fields, B f)
    (columns_ok : RelatedAll R s.columns t.columns cs)
    (conditions_ok : R s.conditions t.conditions ws) (having_ok : R s.having t.having hs)
    (limit_ok : RelatedAll R s.limit.toList t.limit.toList ls)
    (offset_ok : RelatedAll R s.offset.toList t.offset.toList os) :
    R (Compile.joinNonempty " " s.clauses) (Compile.joinNonempty " " t.clauses)
      (cs ++ ws ++ hs ++ ls ++ os) := by
  have hselect : R ("SELECT " ++ (if s.columns.isEmpty then "*"
        else Compile.joinNonempty ", " s.columns) ++ " FROM " ++ s.table)
      ("SELECT " ++ (if t.columns.isEmpty then "*"
        else Compile.joinNonempty ", " t.columns) ++ " FROM " ++ s.table) (cs ++ []) :=
    h.joined " FROM " (by decide)
      (h.keyword (k := "SELECT") (by decide) (h.columns columns_ok)) (h.bare table_ok)
  have hjoin := h.intercalate " " (by decide) (h.bares joins_ok)
  have hwhere := h.filterClause (k := "WHERE") (by decide) conditions_ok
  have hgroup : R (if s.grouping.isEmpty then "" else "GROUP BY " ++ ", ".intercalate s.grouping)
      (if s.grouping.isEmpty then "" else "GROUP BY " ++ ", ".intercalate s.grouping) [] := by
    split
    · exact h.empty
    · exact h.keyword (k := "GROUP BY") (by decide)
        (h.intercalate ", " (by decide) (h.bares grouping_ok))
  have hhaving := h.filterClause (k := "HAVING") (by decide) having_ok
  have horder := h.orderClause sorting_ok
  have hlimit := h.optionalClause (k := "LIMIT") (by decide) limit_ok
  have hoffset := h.optionalClause (k := "OFFSET") (by decide) offset_ok
  have hclauses : RelatedAll R s.clauses t.clauses
      ((cs ++ []) ++ ([] ++ (ws ++ ([] ++ (hs ++ ([] ++ (ls ++ (os ++ [])))))))) := by
    simp only [Select.clauses, htable, hjoins, hgrouping, hsorting]
    exact .cons hselect (.cons hjoin (.cons hwhere (.cons hgroup (.cons hhaving
      (.cons horder (.cons hlimit (.cons hoffset .nil)))))))
  have hjoined := h.joinNonempty " " (by decide) hclauses
  simpa only [List.nil_append, List.append_nil, List.append_assoc] using hjoined

end Assembly

/-! ## Relations between texts alone -/

/-- The relation between texts is kept by the ways of putting texts together. -/
structure FragmentRelation (R : String → String → Prop) : Prop where
  bare {s : String} : hasReserved s = false → R s s
  joined (sep : String) {a b c d : String} : isSeparator sep = true → R a b → R c d →
    R (a ++ sep ++ c) (b ++ sep ++ d)
  isBlankText_eq {a b : String} : R a b → Text.isBlankText a = Text.isBlankText b
  isEmpty_eq {a b : String} : R a b → a.isEmpty = b.isEmpty
  withoutLeadingOperand {a b : String} : R a b →
    R (withoutLeadingOperand a) (withoutLeadingOperand b)
  normalizeSpacing {a b : String} : R a b → R (normalizeSpacing a) (normalizeSpacing b)

/-- Nothing is collected for the texts. -/
theorem FragmentRelation.assembly {R : String → String → Prop} (h : FragmentRelation R) :
    Assembly id (hasReserved · = false) (fun s t (_ : List Empty) => R s t) where
  phrase hs := (unreserved_of_isPhrase hs).1
  append hs ht := by rw [hasReserved_append, hs, ht]; rfl
  uppercase := hasReserved_uppercase
  bare := h.bare
  joined sep _ _ _ _ _ _ hsep := h.joined sep (Bool.and_eq_true_iff.mp hsep).1
  enclosed := by
    intro name a b _ hname hab
    have hright := h.joined ")" (by decide) hab (h.bare (s := "") (by decide))
    have hboth := h.joined "(" (by decide) (h.bare hname) hright
    simpa [parenthesized, String.append_assoc] using hboth
  isBlankText_eq := h.isBlankText_eq
  isEmpty_eq := h.isEmpty_eq
  eq_nil := by
    intro _ _ vs _ _
    cases vs with
    | nil => rfl
    | cons v _ => exact v.elim
  withoutLeadingOperand := h.withoutLeadingOperand
  normalizeSpacing := h.normalizeSpacing

end QuerySql
