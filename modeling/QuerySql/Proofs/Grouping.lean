import QuerySql.Proofs.Confinement

/-!
# Parenthesis groups

Composite conditions, subqueries, function calls and lists are written between parentheses. A reader
who knows no more of SQL than its literals finds the parentheses of a statement balanced, and in
them the tree of the query: a group for each of these, in the order of the clauses, with the groups
of its own members in it and no others. What is dropped or respaced on the way to the statement is
never a parenthesis.

* `Query.groups`: the groups of a query, found by walking over it.
* `Sql.groups?`: the groups of a text, read with a stack.
* `Outlined s groups`: the parentheses in `s` outside of quoted literals are those of `groups`.
* `generate_groups_eq`: the groups of a statement are those of its query.
-/

namespace QuerySql

open Compile Sql

namespace Sql

/-! ## Groups -/

/-- A pair of parentheses, and the groups between them. -/
inductive ParenGroup where
  | mk (members : List ParenGroup)

mutual

/-- The parentheses of a group. -/
def ParenGroup.brackets : ParenGroup → List Char
  | .mk members => '(' :: forestBrackets members ++ [')']

/-- The parentheses of groups that stand side by side. -/
def forestBrackets : List ParenGroup → List Char
  | [] => []
  | g :: gs => g.brackets ++ forestBrackets gs

end

theorem forestBrackets_append (gs hs : List ParenGroup) :
    forestBrackets (gs ++ hs) = forestBrackets gs ++ forestBrackets hs := by
  induction gs with
  | nil => rfl
  | cons g gs ih => rw [List.cons_append, forestBrackets, forestBrackets, ih, List.append_assoc]

theorem forestBrackets_singleton (gs : List ParenGroup) :
    forestBrackets [.mk gs] = '(' :: forestBrackets gs ++ [')'] := by
  simp [forestBrackets, ParenGroup.brackets]

theorem eq_nil_of_forestBrackets {gs : List ParenGroup} (h : forestBrackets gs = []) : gs = [] := by
  match gs with
  | [] => rfl
  | .mk members :: gs => simp [forestBrackets, ParenGroup.brackets] at h

/-- Reads groups. The groups that are open are given by what stands before them on their own level,
innermost first, and `siblings` is what was read since the last of them, in reverse. -/
def readGroups : List (List ParenGroup) → List ParenGroup → List Char → Option (List ParenGroup)
  | [], siblings, [] => some siblings.reverse
  | _ :: _, _, [] => none
  | levels, siblings, '(' :: cs => readGroups (siblings :: levels) [] cs
  | [], _, ')' :: _ => none
  | level :: levels, siblings, ')' :: cs => readGroups levels (.mk siblings.reverse :: level) cs
  | levels, siblings, _ :: cs => readGroups levels siblings cs

/-- The groups of what was read outside of literals, unless its parentheses are not balanced. -/
def groups? (tokens : List Token) : Option (List ParenGroup) :=
  readGroups [] [] (tokens.filterMap Token.char?)

mutual

/-- A group is read to its end. -/
theorem readGroups_brackets (g : ParenGroup) (levels : List (List ParenGroup))
    (siblings : List ParenGroup) (cs : List Char) :
    readGroups levels siblings (g.brackets ++ cs) = readGroups levels (g :: siblings) cs := by
  match g with
  | .mk members =>
    rw [ParenGroup.brackets, List.cons_append, List.cons_append, List.append_assoc, readGroups,
      readGroups_forestBrackets members]
    simp [readGroups]

theorem readGroups_forestBrackets (gs : List ParenGroup) (levels : List (List ParenGroup))
    (siblings : List ParenGroup) (cs : List Char) :
    readGroups levels siblings (forestBrackets gs ++ cs) =
      readGroups levels (gs.reverse ++ siblings) cs := by
  match gs with
  | [] => rfl
  | g :: gs =>
    rw [forestBrackets, List.append_assoc, readGroups_brackets g, readGroups_forestBrackets gs]
    simp

end

/-- A character that stands at the border of a group or of a literal. -/
def isBracket (c : Char) : Bool := ['\x27', '(', ')'].contains c

theorem readGroups_other {c : Char} (hopen : c ≠ '(') (hclose : c ≠ ')')
    (levels : List (List ParenGroup)) (siblings : List ParenGroup) (cs : List Char) :
    readGroups levels siblings (c :: cs) = readGroups levels siblings cs := by
  rw [readGroups]
  · rintro rfl
    exact hopen rfl
  · rintro - rfl
    exact hclose rfl
  · rintro _ _ - rfl
    exact hclose rfl

/-- Only parentheses count. -/
theorem readGroups_filter (levels : List (List ParenGroup)) (siblings : List ParenGroup)
    (cs : List Char) :
    readGroups levels siblings (cs.filter isBracket) = readGroups levels siblings cs := by
  induction cs generalizing levels siblings with
  | nil => rfl
  | cons c cs ih =>
    by_cases hopen : c = '('
    · subst hopen
      rw [List.filter_cons_of_pos (by decide), readGroups, readGroups, ih]
    by_cases hclose : c = ')'
    · subst hclose
      rw [List.filter_cons_of_pos (by decide)]
      cases levels with
      | nil => rfl
      | cons level levels => rw [readGroups, readGroups, ih]
    rw [readGroups_other hopen hclose, ← ih, List.filter_cons]
    split
    · rw [readGroups_other hopen hclose]
    · rfl

/-- A text with the parentheses of groups reads as these groups. -/
theorem groups?_eq {tokens : List Token} {gs : List ParenGroup}
    (h : (tokens.filterMap Token.char?).filter isBracket = forestBrackets gs) :
    groups? tokens = some gs := by
  have hread := readGroups_forestBrackets gs [] [] []
  rw [List.append_nil, List.append_nil, ← h, readGroups_filter] at hread
  rw [groups?, hread, readGroups, List.reverse_reverse]

mutual

theorem ParenGroup.quote_notMem_brackets (g : ParenGroup) : '\x27' ∉ g.brackets := by
  match g with
  | .mk members => simpa [ParenGroup.brackets] using quote_notMem_forestBrackets members

theorem quote_notMem_forestBrackets (gs : List ParenGroup) : '\x27' ∉ forestBrackets gs := by
  match gs with
  | [] => simp [forestBrackets]
  | g :: gs =>
    simpa [forestBrackets] using ⟨g.quote_notMem_brackets, quote_notMem_forestBrackets gs⟩

end

/-! ## Pieces -/

namespace Piece

/-- A parenthesis or an apostrophe outside of literals. -/
def bracket? : Piece → Option Char
  | .plain c => if isBracket c then some c else none
  | _ => none

/-- The piece with a placeholder in the place of a literal that is bound. -/
def bound : Piece → Piece
  | .quoted ⟨false, _⟩ | .other _ => .other ['?']
  | p => p

/-- Characters of a class without brackets are no brackets. -/
theorem bracket?_eq_none {p : Char → Bool} (hp : ∀ c ∈ ['\x27', '(', ')'], p c = false) {c : Char}
    (hc : p c = true) : (Piece.plain c).bracket? = none := by
  have hbracket : isBracket c = false := by
    rw [Bool.eq_false_iff]
    intro hb
    rw [hp c (by simpa [isBracket] using hb)] at hc
    cases hc
  simp [bracket?, hbracket]

theorem bracket?_of_isBlank {c : Char} : Text.isBlank c = true → (Piece.plain c).bracket? = none :=
  bracket?_eq_none (by decide)

theorem bracket?_of_isLeading {c : Char} : isLeading c = true → (Piece.plain c).bracket? = none :=
  bracket?_eq_none (by decide)

theorem written_bound (p : Piece) : p.bound.written = p.placeheld := by
  match p with
  | .plain c | .quoted ⟨false, text⟩ | .other content => rfl
  | .quoted ⟨true, text⟩ => simp [bound, written, placeheld, quoteLiteral, quotedForm]

theorem isLiteral_bound (p : Piece) (hp : p.isLiteral = true) : p.bound.isLiteral = true := by
  match p with
  | .quoted ⟨true, _⟩ | .quoted ⟨false, _⟩ | .other _ => rfl

theorem isQuoteFree_bound {p : Piece} (hp : p ≠ .plain '\x27') : p.bound.isQuoteFree = true := by
  match p with
  | .plain c => simpa [bound, isQuoteFree] using hp
  | .quoted ⟨true, _⟩ | .quoted ⟨false, _⟩ | .other _ => rfl

theorem filter_isBracket_bound (p : Piece) :
    (p.bound.tokens.filterMap Token.char?).filter isBracket = p.bracket?.toList := by
  match p with
  | .plain c =>
    cases hc : isBracket c <;> simp [bound, tokens, Token.char?, bracket?, hc]
  | .quoted ⟨true, text⟩ | .quoted ⟨false, text⟩ | .other content => rfl

end Piece

end Sql

/-! ## Texts -/

/-- The parentheses of the text outside of quoted literals are those of the groups, and there are no
apostrophes outside of them. -/
def Outlined (s : String) (groups : List ParenGroup) : Prop :=
  ∃ t ps, Layout false s t ps ∧ ps.filterMap Piece.bracket? = forestBrackets groups

theorem isPhrase_iff {s : String} :
    isPhrase s = true ↔ hasReserved s = false ∧ ∀ c ∈ s.toList, isBracket c = false := by
  simp only [isPhrase, List.all_eq_true, Bool.and_eq_true, Bool.not_eq_true', hasReserved_eq_false,
    isBracket]
  exact forall₂_and

theorem isPhrase_uppercase {s : String} (h : isPhrase s = true) :
    isPhrase (Text.uppercase s) = true := by
  rw [isPhrase_iff] at h ⊢
  refine ⟨hasReserved_uppercase h.1, fun c hc => Bool.eq_false_iff.mpr fun hb => ?_⟩
  have huncased : c ∈ Text.uncased := by
    simp only [isBracket, List.contains_eq_mem, decide_eq_true_eq] at hb
    exact List.mem_cons_of_mem _ (List.mem_cons_of_mem _ hb)
  -- Upper case keeps the brackets of the text, and there are none.
  have hnone : c ∉ s.toList := fun hm => absurd hb (by simp [h.2 c hm])
  rw [← List.count_eq_zero, ← Text.count_uppercase huncased, List.count_eq_zero] at hnone
  exact hnone hc

theorem filterMap_bracket?_plain {cs : List Char} (h : ∀ c ∈ cs, isBracket c = false) :
    (cs.map Piece.plain).filterMap Piece.bracket? = [] := by
  rw [List.filterMap_eq_nil_iff]
  intro p hp
  obtain ⟨c, hc, rfl⟩ := List.mem_map.mp hp
  simp [Piece.bracket?, h c hc]

namespace Outlined

variable {s : String} {gs : List ParenGroup}

theorem bare (h : isPhrase s = true) : Outlined s [] :=
  ⟨s, _, .plain (.of_isPhrase h), filterMap_bracket?_plain (isPhrase_iff.mp h).2⟩

theorem joined {sep s' : String} {hs : List ParenGroup} (hsep : isJoint sep = true)
    (h : Outlined s gs) (h' : Outlined s' hs) : Outlined (s ++ sep ++ s') (gs ++ hs) := by
  obtain ⟨hseparator, hphrase⟩ := Bool.and_eq_true_iff.mp hsep
  obtain ⟨t, ps, hps, hgs⟩ := h
  obtain ⟨t', ps', hps', hhs⟩ := h'
  refine ⟨_, _, hps.joined hseparator (.of_isPhrase hphrase) hps', ?_⟩
  rw [List.filterMap_append, List.filterMap_append,
    filterMap_bracket?_plain (isPhrase_iff.mp hphrase).2, List.append_nil, hgs, hhs,
    forestBrackets_append]

/-- Parentheses make a group of what stands between them. -/
theorem enclosed {name : String} (hname : isPhrase name = true) (h : Outlined s gs) :
    Outlined (name ++ parenthesized s) [.mk gs] := by
  obtain ⟨t, ps, hps, hgs⟩ := h
  have hempty : Layout false "" "" ("".toList.map .plain) := .plain (.of_isPhrase (by decide))
  have hopen : Standalone false "(" := .of_notMem (by decide) (by decide)
  have hclose : Standalone false ")" := .of_notMem (by decide) (by decide)
  have hlayout := (Layout.plain (.of_isPhrase hname)).joined (by decide) hopen
    (hps.joined (by decide) hclose hempty)
  have htext : name ++ "(" ++ (s ++ ")" ++ "") = name ++ parenthesized s := by
    simp [parenthesized, String.append_assoc]
  rw [htext] at hlayout
  refine ⟨_, _, hlayout, ?_⟩
  simp only [List.filterMap_append, filterMap_bracket?_plain (isPhrase_iff.mp hname).2, hgs,
    forestBrackets_singleton]
  simp [Piece.bracket?, isBracket]

theorem eq_nil (h : Outlined s gs) (hb : Text.isBlankText s = true) : gs = [] := by
  obtain ⟨t, ps, hps, hgs⟩ := h
  rw [hps.marked.isBlankText_eq, rendering_segments.all_isBlank_flatMap, List.all_eq_true] at hb
  refine eq_nil_of_forestBrackets ?_
  rw [← hgs, List.filterMap_eq_nil_iff]
  intro p hp
  cases p with
  | plain c => exact Piece.bracket?_of_isBlank (hb _ hp)
  | quoted literal => rfl
  | other content => rfl

theorem withoutLeadingOperand (h : Outlined s gs) : Outlined (withoutLeadingOperand s) gs := by
  obtain ⟨t, ps, hps, hgs⟩ := h
  refine ⟨_, _, hps.withoutLeadingOperand, ?_⟩
  rw [filterMap_withoutLeadingOperandPieces fun _ => Piece.bracket?_of_isLeading, hgs]

theorem normalizeSpacing (h : Outlined s gs) : Outlined (normalizeSpacing s) gs := by
  obtain ⟨t, ps, hps, hgs⟩ := h
  refine ⟨_, _, hps.normalizeSpacing, ?_⟩
  rw [filterMap_respacePieces fun _ => Piece.bracket?_of_isBlank, hgs]

theorem quoted (isStatic : Bool) (h : hasReserved s = false) :
    Outlined (literal isStatic (quoteLiteral s)) [] :=
  ⟨_, _, .quoted isStatic h, rfl⟩

theorem marked (h : hasReserved s = false) : Outlined (mark s) [] :=
  ⟨_, _, .other h (by simp), rfl⟩

/-- A literal without quotes, static or marked. -/
theorem unquoted (isStatic : Bool) (h : isPhrase s = true) : Outlined (literal isStatic s) [] := by
  cases isStatic with
  | true => exact .bare h
  | false => exact .marked (isPhrase_iff.mp h).1

end Outlined

/-- Putting texts together puts their groups together, and parentheses make a group of them. -/
theorem assembly_outlined :
    Assembly (fun gs => [ParenGroup.mk gs]) (isPhrase · = true)
      (fun s t gs => t = s ∧ Outlined s gs) where
  phrase h := h
  append := by
    intro s t hs ht
    rw [isPhrase_iff] at hs ht ⊢
    rw [hasReserved_append, hs.1, ht.1, String.toList_append, List.forall_mem_append]
    exact ⟨rfl, hs.2, ht.2⟩
  uppercase := isPhrase_uppercase
  bare h := ⟨rfl, .bare h⟩
  joined := by
    rintro sep a _ c _ vs ws hsep ⟨rfl, ha⟩ ⟨rfl, hc⟩
    exact ⟨rfl, ha.joined hsep hc⟩
  enclosed := by
    rintro name a _ vs hname ⟨rfl, ha⟩
    exact ⟨rfl, ha.enclosed hname⟩
  isBlankText_eq := by
    rintro a _ vs ⟨rfl, -⟩
    rfl
  isEmpty_eq := by
    rintro a _ vs ⟨rfl, -⟩
    rfl
  eq_nil h hb := h.2.eq_nil hb
  withoutLeadingOperand := by
    rintro a _ vs ⟨rfl, ha⟩
    exact ⟨rfl, ha.withoutLeadingOperand⟩
  normalizeSpacing := by
    rintro a _ vs ⟨rfl, ha⟩
    exact ⟨rfl, ha.normalizeSpacing⟩

/-! ## Queries -/

/-- Collects a group for everything that stands between parentheses. -/
def groupCollector : Collector ParenGroup where
  scalar _ _ _ := []
  array _ _ := []
  group members := [.mk members]

/-- The groups of a query, in the order of its clauses: composite conditions, subqueries, function
calls, and lists with a datatype, each with the groups of its own members. -/
def Query.groups (q : Query) : List ParenGroup := q.collect groupCollector

/-- No text that is written as it is has a parenthesis or an apostrophe. -/
def Query.Unbracketed (q : Query) : Prop :=
  ∀ l ∈ q.leaves, ∀ s ∈ l.bareText?, ∀ c ∈ s.toList, isBracket c = false

instance (q : Query) : Decidable q.Unbracketed :=
  inferInstanceAs <| Decidable <|
    ∀ l ∈ q.leaves, ∀ s ∈ l.bareText?, ∀ c ∈ s.toList, isBracket c = false

/-- What is assumed of a leaf. -/
structure Leaf.Unbracketed (l : Leaf) : Prop where
  unreserved : l.isUnreserved = true
  isBracket_eq : ∀ s ∈ l.bareText?, ∀ c ∈ s.toList, isBracket c = false

theorem isPhrase_number (n : Number) : isPhrase n.text = true := by
  refine isPhrase_iff.mpr ⟨hasReserved_lexical (j := .num n) rfl, fun c hc => ?_⟩
  have hbrackets : ∀ d ∈ ['\x27', '(', ')'], isNumberChar d = false := by decide
  rw [Bool.eq_false_iff]
  intro hb
  have hnumber := n.isNumberChar_of_mem_text c hc
  rw [hbrackets c (by simpa [isBracket] using hb)] at hnumber
  cases hnumber

/-- An element of an array is quoted or a word without brackets. -/
theorem outlined_element (isStatic : Bool) {stringLed : Bool} {j : Json} {text : String}
    (hj : j.reserved? = none) (htext : elementText? stringLed j = some text) :
    Outlined (literal isStatic text) [] := by
  have hquoted := Outlined.quoted isStatic (hasReserved_lexical hj)
  have hcases (hphrase : isPhrase (lexical j) = true) : Outlined (literal isStatic
      (if stringLed then quoteLiteral (lexical j) else lexical j)) [] := by
    split
    · exact hquoted
    · exact .unquoted isStatic hphrase
  cases j with
  | arr | obj => cases htext
  | str => cases htext; exact hquoted
  | null => cases htext; exact hcases (by decide)
  | bool b => cases htext; exact hcases (by cases b <;> decide)
  | num n => cases htext; exact hcases (isPhrase_number n)

theorem outlined_formatArray (isStatic : Bool) {js : List Json}
    (hjs : ∀ j ∈ js, j.reserved? = none) : Outlined (formatArray isStatic js).value [] :=
  assembly_outlined.formatArray_nil isStatic fun j hj _ => outlined_element isStatic (hjs j hj)

theorem outlined_formatScalar {s : String} {d : Datatype} (hd : Datatype.parse s = .ok d)
    {isStatic : Bool} {j : Json} (h : (Leaf.scalar (some s) isStatic j).Unbracketed) :
    Outlined (formatScalar d isStatic j).value [] := by
  have hj : j.reserved? = none := by simpa using h.unreserved
  have hlexical := hasReserved_lexical hj
  have hempty : Outlined "" [] := .bare (by decide)
  cases d with
  | string => exact .quoted isStatic hlexical
  | raw =>
    cases isStatic with
    | false => exact .marked hlexical
    | true =>
      have hraw := Datatype.ofSpelling?_eq_some hd
      have hbrackets := h.isBracket_eq (lexical j) (by simp [Leaf.bareText?, hraw])
      exact .bare (isPhrase_iff.mpr ⟨hlexical, hbrackets⟩)
  | array => exact outlined_formatArray isStatic (by simpa using hj)
  | function => exact hempty
  | number =>
    cases j with
    | num n => exact .unquoted isStatic (isPhrase_number n)
    | _ => exact hempty
  | boolean =>
    cases j with
    | bool b => exact .unquoted isStatic (by cases b <;> decide)
    | _ => exact hempty

theorem outlined_boundText (b : RowBound) : Outlined (boundText b) [] := by
  have hrows : ∀ n : Nat, isPhrase (Nat.repr n) = true := fun n => isPhrase_number (.integer n)
  cases b with
  | bare rows => exact .bare (hrows rows)
  | flagged rows isStatic => exact .unquoted isStatic (hrows rows)

theorem same_respects_groupCollector :
    Revision.same.Respects groupCollector Leaf.Unbracketed (isPhrase · = true)
      (fun s t gs => t = s ∧ Outlined s gs) where
  assembly := assembly_outlined
  name h := isPhrase_iff.mpr ⟨by simpa using h.unreserved, h.isBracket_eq _ rfl⟩
  field h :=
    isPhrase_iff.mpr ⟨hasReserved_lexical (by simpa using h.unreserved), h.isBracket_eq _ rfl⟩
  scalar hd h := ⟨rfl, outlined_formatScalar hd h⟩
  array h := ⟨rfl, outlined_formatArray _ fun j hj => by simpa using (h j hj).unreserved⟩
  selected h := ⟨rfl, outlined_formatArray _ fun j hj => by simpa using (h j hj).unreserved⟩
  isEmpty_selected _ := rfl
  bound _ := ⟨rfl, outlined_boundText _⟩

/-! ## Statements -/

/-- The statement of a text reads as its pieces, with placeholders in the place of what is bound. -/
theorem Layout.tokens?_ofMarked {s t : String} {ps : List Piece} (h : Layout false s t ps)
    (hquote : .plain '\x27' ∉ ps) :
    tokens? (Statement.ofMarked s).sql = some ((ps.map Piece.bound).flatMap Piece.tokens) := by
  have hdelimited := Piece.delimited_map (g := Piece.bound) (fun _ => rfl) Piece.isLiteral_bound
    h.delimited
  have hfree : ∀ p ∈ ps.map Piece.bound, p.isQuoteFree = true := by
    intro p hp
    obtain ⟨p', hp', rfl⟩ := List.mem_map.mp hp
    exact Piece.isQuoteFree_bound fun he => hquote (he ▸ hp')
  rw [h.ofMarked_eq, tokens?, String.toList_ofList, ← readText_flatMap hdelimited hfree,
    List.flatMap_map]
  simp only [Piece.written_bound]

/-- The statement of an outlined text reads as its groups. -/
theorem Outlined.exists_tokens {s : String} {gs : List ParenGroup} (h : Outlined s gs) :
    ∃ tokens, tokens? (Statement.ofMarked s).sql = some tokens ∧ groups? tokens = some gs := by
  obtain ⟨t, ps, hps, hgs⟩ := h
  have hquote : Piece.plain '\x27' ∉ ps := by
    intro hmem
    have hbracket : '\x27' ∈ ps.filterMap Piece.bracket? := List.mem_filterMap.mpr ⟨_, hmem, rfl⟩
    rw [hgs] at hbracket
    exact quote_notMem_forestBrackets gs hbracket
  refine ⟨_, hps.tokens?_ofMarked hquote, groups?_eq ?_⟩
  rw [← hgs, List.flatMap_map, List.filterMap_flatMap, List.filter_flatMap,
    List.filterMap_eq_flatMap_toList]
  simp only [Piece.filter_isBracket_bound]

/-- If no bare text has a parenthesis or an apostrophe, then the parentheses of a statement, read
outside of its literals, are balanced and group it like its query. -/
theorem generate_groups_eq {options : Options} {q : Query} {st : Statement} (hq : q.Unreserved)
    (hbare : q.Unbracketed) (hst : (options.generate q).result = .ok st) :
    ∃ tokens, tokens? st.sql = some tokens ∧ groups? tokens = some q.groups := by
  obtain ⟨marked, hmarked, -, rfl⟩ := options.generate_eq_ok hst
  have hrelated := same_respects_groupCollector.markup_related { limit := options.maxDepth } q
    fun l hl => ⟨hq l hl, hbare l hl⟩
  rw [hmarked] at hrelated
  obtain ⟨_, -, -, houtlined⟩ := hrelated.of_ok
  exact houtlined.exists_tokens

/-- A function, a subquery, and a composite condition with an empty one and a list in it; the
literals have parentheses of their own. -/
def groupedOrders : Query where
  table := "orders"
  selection := some [
    .detail { field := some "id", function := some ⟨"count", true, []⟩ },
    .detail { aliasName := some "note", subquery := some { table := "notes" } }]
  conditions := some [
    .group none [
      .group none [],
      .comparison (some .or)
        { clause := some (.call ⟨"lower", true, [.str "name"]⟩), operator := "IN",
          datatype := some "STRING", isStatic := true,
          value := some (.array [.str ") (", .null]) }],
    .comparison (some .and)
      { clause := some (.column "owner"), operator := "=", datatype := some "STRING",
        value := some (.literal (.str "it's (")) }]

theorem generate_groups_eq_groupedOrders :
    groupedOrders.groups = [.mk [], .mk [], .mk [.mk [], .mk [], .mk []]] ∧
      ∃ st tokens, (Options.generate {} groupedOrders).result = .ok st ∧
        st.sql = "SELECT COUNT(id), (SELECT * FROM notes) AS note FROM orders " ++
          "WHERE (() OR LOWER(name) IN (') (', 'NULL')) AND owner = ?" ∧
        tokens? st.sql = some tokens ∧ groups? tokens = some groupedOrders.groups := by
  have hst : (Options.generate {} groupedOrders).result =
      .ok ⟨"SELECT COUNT(id), (SELECT * FROM notes) AS note FROM orders " ++
        "WHERE (() OR LOWER(name) IN (') (', 'NULL')) AND owner = ?", [.string "it's ("]⟩ :=
    eq_ok_of_toOption (by decide +kernel)
  obtain ⟨tokens, htokens, hgroups⟩ :=
    generate_groups_eq (by decide +kernel) (by decide +kernel) hst
  exact ⟨rfl, _, tokens, hst, rfl, htokens, hgroups⟩

end QuerySql
