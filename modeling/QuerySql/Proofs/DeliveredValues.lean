import QuerySql.CommandLine.Run
import QuerySql.Embedding
import QuerySql.Proofs.Binding
import QuerySql.Proofs.JsonTexts
import QuerySql.Proofs.Readings

/-!
# Values that leave as JSON

The values of a statement leave as a JSON array, which has an entry for every value and is read
back: booleans, integers and strings as they are. The entry of a finite binary number is its text,
which has all of it; JSON is read with a rounding of its own, so what it is read as may differ in
the last place. An infinite number has no text in JSON and leaves as null. Only a raw value can be
one: its text is read like that of any number, and may be a number beyond the range.

* `BindValue.Delivered`: the entry of a value that is bound, and what is read for it.
* `Query.InRange`: no raw value that is bound is a number beyond the range.
* `bound_values_delivered`: every entry is read back, and nulls are numbers beyond the range.
* `huge_number_delivered_as_null`: a text that leaves as null.
-/

namespace QuerySql

open Compile Sql

/-! ## Numbers that are bound -/

namespace Binary64

/-- Rounding ends in a number of the format, unless the number is beyond the range. -/
theorem representable_ofRatio {negative : Bool} {num den : Nat} (hnum : 0 < num) (hden : 0 < den)
    (h : (ofRatio negative num den).isInfinite = false) :
    (Number.float (ofRatio negative num den)).Representable := by
  obtain ⟨m, e, hm, he, hnormal, -, heq⟩ := exists_ofRatio negative hnum hden
  rw [heq] at h ⊢
  split at h
  · cases h
  · next hmax =>
    rw [if_neg hmax]
    exact ⟨hm, he, by omega, hnormal⟩

theorem representable_ofDecimal {negative : Bool} {coefficient : Nat} {exponent : Int}
    (h : (ofDecimal negative coefficient exponent).isInfinite = false) :
    (Number.float (ofDecimal negative coefficient exponent)).Representable := by
  unfold ofDecimal at h ⊢
  simp only at h ⊢
  split at h
  · next hzero =>
    rw [if_pos hzero]
    exact (within_zero negative le_rfl).1
  · next hzero =>
    rw [if_neg hzero]
    split at h
    · cases h
    · next hrange =>
      rw [if_neg hrange]
      have hpos : 0 < coefficient := by omega
      refine representable_ofRatio (Nat.mul_pos hpos ?_) ?_ h
      · exact Nat.pow_pos (by norm_num)
      · exact Nat.pow_pos (by norm_num)

end Binary64

theorem Word64.representable_signed? {negative : Bool} {magnitude : Nat} {n : Int}
    (h : Word64.signed? negative magnitude = some n) : (Number.integer n).Representable := by
  have hcount : signedCount < count := by decide
  unfold Word64.signed? at h
  split at h
  · split at h
    · cases h
      exact ⟨by omega, by omega⟩
    · cases h
  · split at h
    · cases h
      exact ⟨by omega, by omega⟩
    · cases h

namespace BindValue

theorem representable_signed? {cs : List Char} {n : Int} (h : signed? cs = some n) :
    (Number.integer n).Representable := by
  obtain ⟨magnitude, -, hword⟩ := Option.bind_eq_some_iff.mp h
  exact Word64.representable_signed? hword

theorem representable_unsigned? {cs : List Char} {n : Nat} (h : unsigned? cs = some n) :
    (Number.integer n).Representable := by
  obtain ⟨magnitude, -, hword⟩ := Option.bind_eq_some_iff.mp h
  unfold Word64.unsigned? at hword
  split at hword
  · next hlt =>
    cases hword
    exact ⟨by omega, by exact_mod_cast hlt⟩
  · cases hword

theorem representable_otherNumber? {cs : List Char} {x : Binary64} (h : otherNumber? cs = some x)
    (hx : x.isInfinite = false) : (Number.float x).Representable := by
  unfold otherNumber? at h
  split at h
  · obtain ⟨exponent, -, hsome⟩ := Option.bind_eq_some_iff.mp h
    rw [Option.ite_none_left_eq_some] at hsome
    obtain ⟨-, hsome⟩ := hsome
    cases hsome
    exact Binary64.representable_ofDecimal hx
  · cases h

/-- A number that leaves for a literal is of a kind that is read. -/
theorem representable_of_toJson {l : String} {n : Number} (h : (ofLexical l).toJson = .num n) :
    n.Representable := by
  unfold ofLexical at h
  simp only at h
  split at h
  · cases h
  · split at h
    · cases h
    · split at h
      · cases h
      · split at h
        · next hsigned =>
          cases h
          exact representable_signed? hsigned
        · next hunsigned =>
          cases h
          exact representable_unsigned? hunsigned
        · next x _ _ hother =>
          simp only [toJson] at h
          split at h
          · cases h
          · next hfinite =>
            cases h
            exact representable_otherNumber? hother (by simpa using hfinite)
        · cases h

/-! ## What is read back -/

/-- The entry that a value leaves as, and what is read for the entry. A binary number is recovered
from its entry by reading it like a literal. -/
inductive Delivered : BindValue → String → Json → Prop
  | boolean (b : Bool) : Delivered (.boolean b) (Json.bool b).text (.bool b)
  | integer (n : Int) : Delivered (.integer n) (Number.integer n).text (.num (.integer n))
  | unsigned (n : Nat) : Delivered (.unsigned n) (Number.integer n).text (.num (.integer n))
  | string (s : String) : Delivered (.string s) (Json.str s).text (.str s)
  | finite {x y : Binary64} (hx : x.isInfinite = false)
      (htext : ofLexical (Number.float x).text = .float x)
      (hread : Json.parse? (Number.float x).text = some (.num (.float y))) :
      Delivered (.float x) (Number.float x).text (.num (.float y))
  | infinite {x : Binary64} (hx : x.isInfinite = true) : Delivered (.float x) "null" .null

/-- The value is a number beyond the range. -/
def isInfinite : BindValue → Bool
  | .float x => x.isInfinite
  | _ => false

theorem Delivered.eq_null_iff {value : BindValue} {text : String} {j : Json}
    (h : Delivered value text j) : j = .null ↔ value.isInfinite = true := by
  cases h with
  | finite hx htext hread => simp [isInfinite, hx]
  | infinite hx => simp [isInfinite, hx]
  | _ => simp [isInfinite]

/-- The value of a literal is read back from what leaves for it. -/
theorem exists_delivered (l : String) {levels : Nat} (hlevels : levels < Json.nestingLimit) :
    ∃ j, Delivered (ofLexical l) (ofLexical l).toJson.text j ∧
      Json.ReadsAs levels (ofLexical l).toJson j := by
  have hnumber := @representable_of_toJson l
  cases hvalue : ofLexical l with
  | boolean b => exact ⟨_, .boolean b, Json.readsAs_bool levels b⟩
  | string s => exact ⟨_, .string s, Json.readsAs_str levels s⟩
  | integer n =>
    rw [hvalue] at hnumber
    exact ⟨_, .integer n, Json.readsAs_integer levels (hnumber rfl)⟩
  | unsigned n =>
    rw [hvalue] at hnumber
    exact ⟨_, .unsigned n, Json.readsAs_integer levels (hnumber rfl)⟩
  | float x =>
    rw [hvalue] at hnumber
    cases hx : x.isInfinite with
    | true =>
      rw [toJson, if_pos hx]
      exact ⟨_, .infinite hx, Json.readsAs_null levels⟩
    | false =>
      have hjson : (BindValue.float x).toJson = .num (.float x) := by simp [toJson, hx]
      have hrepresentable := hnumber hjson
      obtain ⟨n', hn, hread⟩ := Json.exists_readsAs_num levels hrepresentable
      cases hn with
      | float _ y =>
        rw [hjson]
        exact ⟨_, .finite hx (Number.ofLexical_text hrepresentable) (hread.parse? hlevels), hread⟩

end BindValue

/-- Every value that a statement takes out of a marked text is read back. -/
theorem exists_delivered_ofMarked (marked : String) {levels : Nat}
    (hlevels : levels < Json.nestingLimit) :
    ∃ js, List.Forall₂ (fun v j => v.Delivered v.toJson.text j)
        (Statement.ofMarked marked).params js ∧
      List.Forall₂ (Json.ReadsAs levels)
        ((Statement.ofMarked marked).params.map BindValue.toJson) js := by
  simp only [Statement.ofMarked]
  induction segments marked with
  | nil => exact ⟨[], .nil, .nil⟩
  | cons p parts ih =>
    obtain ⟨js, hdelivered, hread⟩ := ih
    cases p with
    | plain c => exact ⟨js, hdelivered, hread⟩
    | literal content =>
      obtain ⟨j, hj, hjread⟩ := BindValue.exists_delivered (String.ofList content) hlevels
      exact ⟨j :: js, .cons hj hdelivered, .cons hjread hread⟩

/-- A statement is read back with its text and its values. -/
theorem Statement.parse?_toJson {statement : Statement} {js : List Json}
    (h : List.Forall₂ (Json.ReadsAs 0) (statement.params.map BindValue.toJson) js) :
    Json.parse? statement.toJson.text =
      some (.obj [("sql", .str statement.sql), ("params", .arr js)]) := by
  have hsql : Json.MemberReadsAs 1 ("sql", .str statement.sql) ("sql", .str statement.sql) :=
    ⟨rfl, Json.readsAs_str 1 _⟩
  have hparams : Json.MemberReadsAs 1 ("params", .arr (statement.params.map BindValue.toJson))
      ("params", .arr js) := ⟨rfl, .arr h⟩
  exact (Json.ReadsAs.obj (.cons hsql (.cons hparams .nil)) (by simp)).parse? (by decide)

/-! ## Documents -/

/-- A query is compiled like a union of nothing else. -/
theorem Compile.result_unionMarkup_singleton (limit : Nat) (q : Query) :
    (unionMarkup limit [q]).result = (markup { limit } q).result := by
  rw [result_unionMarkup limit (by simp), result_markups_cons]
  cases (markup { limit } q).result with
  | error e => rfl
  | ok text => simp [markups, Except.bind]

namespace Options

variable {options : Options} {document : String}

/-- The statement of a document is that of the union of its queries. -/
theorem result_generateDocument :
    (options.generateDocument document).result =
      (CommandLine.Request.queries options document).bind fun members =>
        (options.generateUnion members).result := by
  unfold Options.generateDocument CommandLine.Request.queries
  cases options.withUnion with
  | true =>
    simp only [if_true, Compilation.result_bind]
    cases Query.parseUnion document <;> rfl
  | false =>
    simp only [Bool.false_eq_true, if_false, Compilation.result_bind]
    cases Query.parse document with
    | error e => rfl
    | ok q =>
      simp only [Except.map, Except.mapError, Except.bind, decoded, Compilation.result_pure]
      rw [result_generate, result_generateUnion, result_unionMarkup_singleton]

theorem admitted_of_queries {members : List Query}
    (h : CommandLine.Request.queries options document = .ok members) :
    ∀ q ∈ members, q.Admitted := by
  have hread : Returns (fun qs => ∀ q ∈ qs, q.Admitted)
      (CommandLine.Request.queries options document) := by
    unfold CommandLine.Request.queries
    split
    · exact (Query.admitted_of_parseUnion document).mapError _
    · refine Returns.mapError _ ((Query.admitted_of_parse document).map fun q hq => ?_)
      simpa using hq
  exact hread _ h

/-- A statement that is generated for a document is taken out of the text of its queries. -/
theorem generateDocument_eq_ok {statement : Statement}
    (h : (options.generateDocument document).result = .ok statement) :
    ∃ members marked, CommandLine.Request.queries options document = .ok members ∧
      members ≠ [] ∧ (unionMarkup options.maxDepth members).result = .ok marked ∧
      statement = .ofMarked marked := by
  rw [result_generateDocument] at h
  cases hqueries : CommandLine.Request.queries options document with
  | error e =>
    rw [hqueries] at h
    cases h
  | ok members =>
    rw [hqueries] at h
    simp only [Except.bind, result_generateUnion] at h
    cases hmarked : (unionMarkup options.maxDepth members).result with
    | error e =>
      rw [hmarked] at h
      cases h
    | ok marked =>
      rw [hmarked] at h
      simp only at h
      split at h
      · cases h
      · cases h
        refine ⟨members, marked, rfl, ?_, hmarked, rfl⟩
        rintro rfl
        cases hmarked

end Options

/-! ## Literals that are numbers beyond the range -/

/-- A literal with an apostrophe is no number. -/
theorem BindValue.isInfinite_of_hasQuote {l : String} (h : hasQuote l.toList = true) :
    (ofLexical l).isInfinite = false := by
  have hnumeric : isNumeric l.toList = false := by
    have hmem : '\x27' ∈ l.toList := by simpa [hasQuote] using h
    rw [isNumeric, Bool.and_eq_false_iff]
    exact .inr (List.all_eq_false.mpr ⟨_, hmem, by decide⟩)
  unfold ofLexical
  simp only [otherNumber?, hnumeric]
  split
  · rfl
  · split
    · rfl
    · split
      · rfl
      · split
        · rfl
        · rfl
        · next hother => cases hother
        · rfl

/-- An apostrophe is never passed over. -/
theorem Sql.Mode.hasQuote_run (m : Mode) (ahead : Bool) {cs : List Char}
    (h : hasQuote cs = true) : hasQuote (m.run ahead cs).1 = true := by
  induction cs generalizing m with
  | nil => cases h
  | cons c cs ih =>
    simp only [Mode.run, hasQuote_append, Bool.or_eq_true]
    by_cases hc : c = '\x27'
    · subst hc
      left
      rcases m.step_written (hasQuote cs || ahead) '\x27' with ⟨-, hblank⟩ | hstep | hstep
      · exact absurd hblank (by decide)
      · rw [hstep]
        rfl
      · rw [hstep]
        rfl
    · right
      refine ih _ ?_
      simpa [hasQuote, Ne.symm hc] using h

/-- Respacing leaves a literal as it is, unless the literal has an apostrophe. -/
theorem Sql.literal_mem_respaceParts {m : Mode} {ps : List Segment} {b : List Char}
    (h : .literal b ∈ respaceParts m ps) : .literal b ∈ ps ∨ hasQuote b = true := by
  induction ps generalizing m with
  | nil => cases h
  | cons p ps ih =>
    have hrest : ∀ {m}, .literal b ∈ respaceParts m ps → .literal b ∈ p :: ps ∨ hasQuote b = true :=
      fun h => (ih h).imp_left (List.mem_cons_of_mem _)
    cases p with
    | plain c =>
      rw [respaceParts_plain] at h
      rcases List.mem_append.mp h with h | h
      · simp at h
      · exact hrest h
    | literal a =>
      cases m with
      | free gap started =>
        rcases List.mem_append.mp h with h | h
        · simp at h
        · rcases List.mem_cons.mp h with h | h
          · exact .inl (h ▸ List.mem_cons_self)
          · exact hrest h
      | quoted =>
        rcases List.mem_cons.mp h with h | h
        · cases hquote : hasQuote a with
          | false =>
            rw [Mode.run_quoted _ hquote, Mode.due, List.append_nil] at h
            exact .inl (h ▸ List.mem_cons_self)
          | true =>
            right
            cases h
            rw [hasQuote_append, Mode.hasQuote_run _ _ hquote, Bool.true_or]
        · exact hrest h

/-- No literal of the marked text is a number beyond the range. -/
def InRangeText (s : String) : Prop :=
  ∃ parts, Marked s parts ∧
    ∀ b, .literal b ∈ parts → (BindValue.ofLexical (String.ofList b)).isInfinite = false

namespace InRangeText

variable {s t : String}

theorem bare (h : hasReserved s = false) : InRangeText s := ⟨_, .bare h, by simp⟩

theorem append (hs : InRangeText s) (ht : InRangeText t) : InRangeText (s ++ t) := by
  obtain ⟨parts, hparts, hrange⟩ := hs
  obtain ⟨parts', hparts', hrange'⟩ := ht
  refine ⟨_, hparts.append hparts', fun b hb => ?_⟩
  exact (List.mem_append.mp hb).elim (hrange b) (hrange' b)

theorem literal (isStatic : Bool) (hs : hasReserved s = false)
    (h : isStatic = false → (BindValue.ofLexical s).isInfinite = false) :
    InRangeText (literal isStatic s) := by
  cases isStatic with
  | true => exact .bare hs
  | false =>
    refine ⟨_, .mark hs, fun b hb => ?_⟩
    cases List.mem_singleton.mp hb
    rw [String.ofList_toList]
    exact h rfl

theorem quoted (isStatic : Bool) (hs : hasReserved s = false) :
    InRangeText (Compile.literal isStatic (quoteLiteral s)) := by
  refine .literal isStatic (hasReserved_quoteLiteral hs) fun _ => ?_
  rw [BindValue.ofLexical_quoteLiteral]
  rfl

theorem withoutLeadingOperand (h : InRangeText s) : InRangeText (withoutLeadingOperand s) := by
  obtain ⟨parts, hparts, hrange⟩ := h
  obtain ⟨pre, hpre, -⟩ := withoutLeadingOperandParts_suffix parts
  refine ⟨_, hparts.withoutLeadingOperand, fun b hb => hrange b ?_⟩
  rw [hpre]
  exact List.mem_append_right _ hb

theorem normalizeSpacing (h : InRangeText s) : InRangeText (normalizeSpacing s) := by
  obtain ⟨parts, hparts, hrange⟩ := h
  refine ⟨_, hparts.normalizeSpacing, fun b hb => ?_⟩
  rcases literal_mem_respaceParts hb with hb | hquote
  · exact hrange b hb
  · exact BindValue.isInfinite_of_hasQuote (by rwa [String.toList_ofList])

end InRangeText

/-- The ways of putting texts together make no number beyond the range. -/
theorem fragmentRelation_inRange : FragmentRelation fun s t => t = s ∧ InRangeText s where
  bare hs := ⟨rfl, .bare hs⟩
  joined sep a b c d hsep hab hcd := by
    obtain ⟨rfl, ha⟩ := hab
    obtain ⟨rfl, hc⟩ := hcd
    have hsep : hasReserved sep = false := by
      simp only [isSeparator, Bool.and_eq_true, Bool.not_eq_true'] at hsep
      exact hsep.1.1
    exact ⟨rfl, (ha.append (.bare hsep)).append hc⟩
  isBlankText_eq h := by rw [h.1]
  isEmpty_eq h := by rw [h.1]
  withoutLeadingOperand h := ⟨by rw [h.1], h.2.withoutLeadingOperand⟩
  normalizeSpacing h := ⟨by rw [h.1], h.2.normalizeSpacing⟩

/-! ## Queries in range -/

/-- The leaf is no raw value that is bound and is a number beyond the range. -/
def Leaf.InRange : Leaf → Prop
  | .scalar datatype false j => Datatype.ofSpelling? datatype = some .raw →
      (BindValue.ofLexical (lexical j)).isInfinite = false
  | _ => True

/-- No raw value of the query that is bound is a number beyond the range. -/
def Query.InRange (q : Query) : Prop := ∀ l ∈ q.leaves, l.InRange

/-- A leaf that is read, and in range. -/
structure Leaf.Moderate (l : Leaf) : Prop where
  admitted : l.Admitted
  inRange : l.InRange

theorem BindValue.isInfinite_ofInteger (n : Int) : (ofInteger n).isInfinite = false := by
  rw [ofInteger]
  split <;> rfl

theorem Number.isInfinite_text {n : Number} (h : n.Representable) :
    (BindValue.ofLexical n.text).isInfinite = false := by
  rw [Number.ofLexical_text h]
  match n, h with
  | .integer n, _ => exact BindValue.isInfinite_ofInteger n
  | .float (.finite _ _ _), _ => rfl

theorem inRangeText_element {isStatic stringLed : Bool} {j : Json} {text : String}
    (hj : (Leaf.item isStatic j).Admitted) (h : elementText? stringLed j = some text) :
    InRangeText (literal isStatic text) := by
  have hreserved : j.reserved? = none := by simpa using hj.unreserved
  have hlexical := hasReserved_lexical hreserved
  -- What is no string is written in quotes, or is no number beyond the range.
  have hother : (BindValue.ofLexical (lexical j)).isInfinite = false →
      some (if stringLed then quoteLiteral (lexical j) else lexical j) = some text →
      InRangeText (literal isStatic text) := by
    intro hfinite htext
    cases htext
    split
    · exact .quoted isStatic hlexical
    · exact .literal isStatic hlexical fun _ => hfinite
  cases j with
  | arr items => cases h
  | obj members => cases h
  | str s =>
    cases h
    exact .quoted isStatic hlexical
  | null => exact hother (by decide +kernel) h
  | bool b => exact hother (by cases b <;> decide +kernel) h
  | num n => exact hother (Number.isInfinite_text hj.representable) h

theorem inRangeText_formatArray {isStatic : Bool} {js : List Json}
    (h : ∀ j ∈ js, (Leaf.item isStatic j).Admitted) :
    InRangeText (formatArray isStatic js).value :=
  fragmentRelation_inRange.assembly.formatArray_nil (Q := fun s _ => InRangeText s) isStatic
    fun j hj _ htext => inRangeText_element (h j hj) htext

theorem inRangeText_formatScalar {s : String} {d : Datatype} (hd : Datatype.parse s = .ok d)
    {isStatic : Bool} {j : Json} (h : (Leaf.scalar (some s) isStatic j).Moderate) :
    InRangeText (formatScalar d isStatic j).value := by
  have hreserved : j.reserved? = none := by simpa using h.admitted.unreserved
  have hlexical := hasReserved_lexical hreserved
  have hempty : InRangeText "" := .bare (by decide)
  cases d with
  | string => exact .quoted isStatic hlexical
  | raw =>
    refine .literal isStatic hlexical ?_
    rintro rfl
    exact h.inRange (Datatype.ofSpelling?_eq_some hd)
  | array =>
    refine inRangeText_formatArray fun k hk => ?_
    rw [List.mem_singleton.mp hk]
    refine ⟨by simpa using hreserved, ?_⟩
    cases j with
    | num n => exact h.admitted.representable
    | _ => trivial
  | function => exact hempty
  | number =>
    cases j with
    | num n =>
      exact .literal isStatic hlexical fun _ => Number.isInfinite_text h.admitted.representable
    | _ => exact hempty
  | boolean =>
    cases j with
    | bool b => exact .literal isStatic hlexical fun _ => by cases b <;> decide +kernel
    | _ => exact hempty

theorem inRangeText_boundText {bound : RowBound} (h : (Leaf.bound bound).Admitted) :
    InRangeText (boundText bound) := by
  have hrepr : ∀ n, hasReserved (Nat.repr n) = false :=
    fun n => (bare_of_isNumberChar fun c hc => isNumberChar_of_mem_repr hc).unreserved
  match bound with
  | .bare rows => exact .bare (hrepr rows)
  | .flagged rows isStatic =>
    refine .literal isStatic (hrepr rows) fun _ => ?_
    rw [BindValue.ofLexical_repr h.representable]
    exact BindValue.isInfinite_ofInteger rows

/-- What is written for a value is in range. -/
theorem same_respects_inRange :
    Revision.same.Respects Collector.nothing Leaf.Moderate (hasReserved · = false)
      (fun s t (_ : List Empty) => t = s ∧ InRangeText s) where
  assembly := fragmentRelation_inRange.assembly
  name h := by simpa using h.admitted.unreserved
  field h := hasReserved_lexical (by simpa using h.admitted.unreserved)
  scalar hd h := ⟨rfl, inRangeText_formatScalar hd h⟩
  array h := ⟨rfl, inRangeText_formatArray fun j hj => (h j hj).admitted⟩
  selected h := ⟨rfl, inRangeText_formatArray fun j hj => (h j hj).admitted⟩
  isEmpty_selected _ := rfl
  bound h := ⟨rfl, inRangeText_boundText h.admitted⟩

/-- If the queries are in range, no number beyond the range is bound. -/
theorem isInfinite_of_inRange {limit : Nat} {members : List Query} {marked : String}
    (hne : members ≠ []) (hadmitted : ∀ q ∈ members, q.Admitted)
    (hrange : ∀ q ∈ members, q.InRange) (h : (unionMarkup limit members).result = .ok marked) :
    ∀ v ∈ (Statement.ofMarked marked).params, v.isInfinite = false := by
  have hrelated := same_respects_inRange.unionMarkup_related limit hne
    fun q hq l hl => ⟨hadmitted q hq l hl, hrange q hq l hl⟩
  rw [h] at hrelated
  obtain ⟨_, -, -, parts, hparts, hliterals⟩ := hrelated.of_ok
  rw [hparts.ofMarked_eq]
  intro v hv
  obtain ⟨p, hp, hvalue⟩ := List.mem_filterMap.mp hv
  cases p with
  | plain c => cases hvalue
  | literal b =>
    cases hvalue
    exact hliterals b hp

/-! ## What leaves -/

theorem null_mem_iff {params : List BindValue} {js : List Json}
    (h : List.Forall₂ (fun v j => v.Delivered v.toJson.text j) params js) :
    Json.null ∈ js ↔ ∃ v ∈ params, v.isInfinite = true := by
  induction h with
  | nil => simp
  | cons hhead _ ih =>
    rw [List.mem_cons, List.exists_mem_cons_iff, ih, ← hhead.eq_null_iff, eq_comm]

/-- The array is written entry by entry. -/
theorem text_arr_params (params : List BindValue) :
    (Json.arr (params.map BindValue.toJson)).text =
      "[" ++ ",".intercalate (params.map fun v => v.toJson.text) ++ "]" := by
  have hentries : Json.itemTexts (params.map BindValue.toJson) =
      params.map fun v => v.toJson.text := by
    induction params with
    | nil => rfl
    | cons v params ih => rw [List.map_cons, Json.itemTexts, ih, List.map_cons]
  rw [Json.text, hentries]

/-- A request with values first checks the vocabulary, if it is strict. -/
theorem CommandLine.Request.output_eq {r : Request} (hparams : r.params = true) (options : Options)
    (document : String) :
    r.output options document =
      ((if r.strict then checkVocabulary options document else .ok ()).bind fun _ =>
        (options.generateDocument document).result.map fun statement =>
          statement.sql ++ "\n" ++ (Json.arr (statement.params.map BindValue.toJson)).text ++
            "\n").mapError .compilation := by
  unfold Request.output Request.compile
  rw [if_pos hparams]
  cases r.strict <;> rfl

theorem CommandLine.Request.output_params {r : Request} {options : Options} {document : String}
    {statement : Statement} (h : (options.generateDocument document).result = .ok statement)
    (hparams : r.params = true)
    (hstrict : r.strict = true → checkVocabulary options document = .ok ()) :
    r.output options document = .ok (statement.sql ++ "\n" ++
      (Json.arr (statement.params.map BindValue.toJson)).text ++ "\n") := by
  have hcheck : (if r.strict then checkVocabulary options document else .ok ()) = .ok () := by
    split
    · next hs => exact hstrict hs
    · rfl
  rw [output_eq hparams, hcheck, h]
  rfl

/-- The values of a statement leave one by one, each as the entry that holds it, and are read back,
from the object that a host program gets and from the second part of what the command prints. A null
is read only for a number beyond the range, which a raw value of the document is then. -/
theorem bound_values_delivered {options : Options} {document : String} {statement : Statement}
    (h : (options.generateDocument document).result = .ok statement) :
    ∃ js, List.Forall₂ (fun v j => v.Delivered v.toJson.text j) statement.params js ∧
      (Json.null ∈ js ↔ ∃ v ∈ statement.params, v.isInfinite = true) ∧
      (Json.null ∈ js → ∃ members, CommandLine.Request.queries options document = .ok members ∧
        ∃ q ∈ members, ¬ q.InRange) ∧
      Json.parse? statement.toJson.text =
        some (.obj [("sql", .str statement.sql), ("params", .arr js)]) ∧
      (∀ withUnion sanitize, options = Embedding.options withUnion sanitize →
        Embedding.generate document withUnion sanitize = .ok statement.toJson.text) ∧
      ∃ line, line = "[" ++ ",".intercalate (statement.params.map fun v => v.toJson.text) ++ "]" ∧
        Json.parse? line = some (.arr js) ∧
        ∀ r : CommandLine.Request, r.params = true →
          (r.strict = true → CommandLine.Request.checkVocabulary options document = .ok ()) →
          r.output options document = .ok (statement.sql ++ "\n" ++ line ++ "\n") := by
  obtain ⟨members, marked, hqueries, hne, hmarked, rfl⟩ := Options.generateDocument_eq_ok h
  obtain ⟨js, hdelivered, hread⟩ :=
    exists_delivered_ofMarked marked (show 0 < Json.nestingLimit by decide)
  have hnull := null_mem_iff hdelivered
  refine ⟨js, hdelivered, hnull, ?_, Statement.parse?_toJson hread, ?_, _,
    text_arr_params _, (Json.ReadsAs.arr hread).parse? (by decide), fun r hparams hstrict => ?_⟩
  · intro hmem
    obtain ⟨v, hv, hinfinite⟩ := hnull.mp hmem
    refine ⟨members, hqueries, ?_⟩
    by_contra hnone
    have hrange : ∀ q ∈ members, q.InRange := by simpa using hnone
    have hfinite := isInfinite_of_inRange hne (Options.admitted_of_queries hqueries) hrange hmarked
    rw [hfinite v hv] at hinfinite
    cases hinfinite
  · rintro withUnion sanitize rfl
    rw [Embedding.generate, h]
    rfl
  · exact CommandLine.Request.output_params h hparams hstrict

/-- A query with the raw ends of a range and a limit that are bound. -/
def lowReadings : String :=
  "\x7b\"table\":\"t\",\"conditions\":[\x7b\"clause\":\"a\",\"operator\":\"between\"," ++
    "\"datatype\":\"RAW\",\"value\":\x7b\"from\":2.5,\"to\":\"1e999\"\x7d\x7d]," ++
    "\"limit\":\x7b\"value\":5\x7d\x7d"

theorem bound_values_delivered_lowReadings :
    ∃ x y, BindValue.ofLexical "2.5" = .float x ∧
      (Options.generateDocument {} lowReadings).result =
        .ok ⟨"SELECT * FROM t WHERE a BETWEEN ? AND ? LIMIT ?",
          [.float x, .float (.infinite false), .integer 5]⟩ ∧
      Json.parse? "2.5" = some (.num (.float y)) ∧
      Json.parse? "[2.5,null,5]" = some (.arr [.num (.float y), .null, .num (.integer 5)]) ∧
      CommandLine.Request.output { params := true } {} lowReadings =
        .ok ("SELECT * FROM t WHERE a BETWEEN ? AND ? LIMIT ?" ++ "\n" ++ "[2.5,null,5]" ++ "\n") ∧
      ∃ members, CommandLine.Request.queries {} lowReadings = .ok members ∧
        ∃ q ∈ members, ¬ q.InRange := by
  have hresult : (Options.generateDocument {} lowReadings).result =
      .ok ⟨"SELECT * FROM t WHERE a BETWEEN ? AND ? LIMIT ?", [
        .float (.finite false 0x14000000000000 (-51)), .float (.infinite false), .integer 5]⟩ :=
    eq_ok_of_toOption (by decide +kernel)
  have htext : (Number.float (.finite false 0x14000000000000 (-51))).text = "2.5" := by
    decide +kernel
  obtain ⟨js, hdelivered, -, hraw, -, -, line, hline, hread, hprinted⟩ :=
    bound_values_delivered hresult
  obtain rfl : line = "[2.5,null,5]" := hline.trans (by decide +kernel)
  cases hdelivered with
  | cons hnumber hdelivered =>
    cases hdelivered with
    | @cons _ huge _ _ hhuge hdelivered =>
      obtain rfl : huge = .null := hhuge.eq_null_iff.mpr rfl
      cases hdelivered with
      | cons hlimit hdelivered =>
        cases hdelivered
        -- The entries are computed texts, which the case analysis need not evaluate.
        generalize (BindValue.integer 5).toJson.text = entry at hlimit
        generalize (BindValue.float _).toJson.text = entry' at hnumber
        cases hlimit
        cases hnumber with
        | infinite hx => cases hx
        | finite hx hlexical hnumberRead =>
          rw [htext] at hlexical hnumberRead
          exact ⟨_, _, hlexical, hresult, hnumberRead, hread,
            hprinted { params := true } rfl (fun h => by cases h), hraw (by simp)⟩

/-- A query with a raw value and a limit that are bound. -/
def hugeReading : String :=
  "\x7b\"table\":\"t\",\"conditions\":[\x7b\"clause\":\"a\",\"operator\":\"<\"," ++
    "\"datatype\":\"RAW\",\"value\":\"1e999\"\x7d],\"limit\":\x7b\"value\":5\x7d\x7d"

/-- A raw number of a thousand digits is bound as an infinite number and leaves as null. -/
theorem huge_number_delivered_as_null :
    BindValue.ofLexical "1e999" = .float (.infinite false) ∧
      (Options.generateDocument {} hugeReading).result =
        .ok ⟨"SELECT * FROM t WHERE a < ? LIMIT ?", [.ofLexical "1e999", .integer 5]⟩ ∧
      Embedding.generate hugeReading false false =
        .ok "\x7b\"sql\":\"SELECT * FROM t WHERE a < ? LIMIT ?\",\"params\":[null,5]\x7d" := by
  have hnumber : BindValue.ofLexical "1e999" = .float (.infinite false) := by decide +kernel
  have hresult : (Options.generateDocument {} hugeReading).result =
      .ok ⟨"SELECT * FROM t WHERE a < ? LIMIT ?", [.float (.infinite false), .integer 5]⟩ :=
    eq_ok_of_toOption (by decide +kernel)
  have hgenerate : Embedding.generate hugeReading false false =
      (Options.generateDocument {} hugeReading).result.map fun st => st.toJson.text := rfl
  rw [hnumber, hgenerate, hresult]
  exact ⟨rfl, rfl, eq_ok_of_toOption (by decide +kernel)⟩

end QuerySql
