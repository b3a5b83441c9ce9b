import QuerySql.Proofs.Confinement
import QuerySql.Proofs.StaticFlags

/-!
# Typed values cannot carry SQL

What a typed value adds to a statement is inert: whatever JSON the value is made of, a reader of the
right-hand side of a comparison finds quoted literals with plain texts of the value's scalars in
them, and between these nothing but numbers, four fixed words and delimiters. A value that its
datatype cannot take is left out. Raw scalars are the exception, and arrays of raw values are not.

* `Inert scalars tokens`: nothing in the tokens but what is listed above.
* `Written s t scalars`: `t` is `s` with its literals written in, and reads as inert tokens.
* `typed_values_inert`: so do the right-hand sides of all operators.
-/

namespace QuerySql

open Compile Sql

/-! ## Inert tokens -/

/-- The scalars of a value. Those of a subquery are its own. -/
def Value.scalars : Value → List Json
  | .literal scalar => [scalar]
  | .range lower upper => lower.toList ++ upper.toList
  | .array items => items
  | .call _ | .subquery _ | .unsupported _ => []

/-- The words that values and ranges are written with. -/
def valueWords : List String := ["true", "false", "NULL", "AND"]

/-- What stands between delimiters: nothing, a fixed word, or a number of the value. -/
def InertWord (scalars : List Json) (word : List Char) : Prop :=
  word = [] ∨ String.ofList word ∈ valueWords ∨
    ∃ n : Number, .num n ∈ scalars ∧ n.text = String.ofList word

/-- Every literal among the tokens is the plain text of a scalar, in the order of the scalars, and
once the literals are removed only words, numbers and delimiters remain. -/
structure Inert (scalars : List Json) (tokens : List Token) : Prop where
  literals : (tokens.filterMap Token.content?).Sublist (scalars.map lexical)
  words : ∀ word ∈ (tokens.filterMap Token.char?).splitOnP isDelimiter, InertWord scalars word

theorem InertWord.mono {js ks : List Json} {word : List Char} (h : InertWord js word)
    (hsub : ∀ j ∈ js, j ∈ ks) : InertWord ks word := by
  obtain h | h | ⟨n, hn, htext⟩ := h
  · exact .inl h
  · exact .inr (.inl h)
  · exact .inr (.inr ⟨n, hsub _ hn, htext⟩)

theorem Inert.mono {js ks : List Json} {ts : List Token} (h : Inert js ts) (hsub : js.Sublist ks) :
    Inert ks ts where
  literals := h.literals.trans (hsub.map lexical)
  words w hw := (h.words w hw).mono fun _ => hsub.mem

theorem Inert.nil : Inert [] [] where
  literals := List.Sublist.refl _
  words w hw := by simp_all [InertWord]

theorem Inert.literal (j : Json) : Inert [j] [.literal (lexical j)] where
  literals := List.Sublist.refl _
  words w hw := by simp_all [InertWord, Token.char?, List.filterMap_cons]

/-- A word without delimiters. -/
theorem Inert.word {js : List Json} {w : List Char} (hw : InertWord js w)
    (h : ∀ c ∈ w, isDelimiter c = false) : Inert js (w.map .char) where
  literals := by simp [List.filterMap_map, Function.comp_def, Token.content?]
  words := by
    have hchars : (w.map Token.char).filterMap Token.char? = w := by
      simp [List.filterMap_map, Function.comp_def, Token.char?]
    rw [hchars, List.splitOnP_eq_singleton h]
    simpa using hw

/-- A delimiter between inert tokens parts the words on either side of it. -/
theorem Inert.joined {js ks : List Json} {ts us : List Token} (ht : Inert js ts) (hu : Inert ks us)
    {c : Char} (hc : isDelimiter c = true) : Inert (js ++ ks) (ts ++ .char c :: us) where
  literals := by
    simpa [Token.content?, List.filterMap_cons] using ht.literals.append hu.literals
  words := by
    intro w hw
    have hsplit : (ts ++ .char c :: us).filterMap Token.char? =
        ts.filterMap Token.char? ++ c :: us.filterMap Token.char? := by
      simp [Token.char?]
    rw [hsplit, List.splitOnP_append_cons _ _ hc, List.mem_append] at hw
    rcases hw with hw | hw
    · exact (ht.words w hw).mono fun _ => List.mem_append_left _
    · exact (hu.words w hw).mono fun _ => List.mem_append_right _

/-! ## Texts that read as inert tokens -/

/-- The text reads as the tokens, whatever follows it from a delimiter on. -/
def Reads (cs : List Char) (tokens : List Token) : Prop :=
  ∀ rest : List Char, rest.head?.all isDelimiter = true →
    readText (cs ++ rest) = (readText rest).map (tokens ++ ·)

theorem ne_quote_of_isDelimiter {c : Char} (h : isDelimiter c = true) : c ≠ '\x27' := by
  rintro rfl
  exact absurd h (by decide)

theorem Reads.of_notMem {cs : List Char} (h : '\x27' ∉ cs) : Reads cs (cs.map .char) :=
  fun rest _ => readText_append h rest

theorem Reads.quoteLiteral (s : String) : Reads (quoteLiteral s).toList [.literal s] := by
  intro rest hrest
  have hhead : rest.head? ≠ some '\x27' := by
    intro he
    rw [he, Option.all_some] at hrest
    exact ne_quote_of_isDelimiter hrest rfl
  simp only [Sql.quoteLiteral, String.toList_ofList, List.cons_append, List.append_assoc,
    List.nil_append]
  rw [readText, readLiteral_double _ hhead, Option.map_map]
  simp [Function.comp_def]

theorem Reads.joined {cs ds : List Char} {ts us : List Token} (ht : Reads cs ts) (hu : Reads ds us)
    {c : Char} (hc : isDelimiter c = true) : Reads (cs ++ c :: ds) (ts ++ .char c :: us) := by
  intro rest hrest
  rw [List.append_assoc, List.cons_append, ht _ (by simpa using hc),
    readText_cons (ne_quote_of_isDelimiter hc), hu rest hrest]
  simp [Function.comp_def]

/-- A fragment that is not blank stands first, alone if the others come to nothing, and otherwise
with a separator after it. -/
theorem joinFragments_cons (sep : String) {s : String} (fragments : List String)
    (hs : Text.isBlankText s = false) :
    joinFragments sep fragments = "" ∧ joinFragments sep (s :: fragments) = s ∨
      joinFragments sep (s :: fragments) = s ++ sep ++ joinFragments sep fragments := by
  simp only [joinFragments, List.filter_cons, hs, Bool.not_false, if_true]
  cases fragments.filter fun f => !Text.isBlankText f with
  | nil => exact .inl ⟨String.intercalate_nil, String.intercalate_singleton⟩
  | cons f fs => exact .inr String.intercalate_cons_cons

/-- The text reads as inert tokens. -/
def InertText (cs : List Char) (js : List Json) : Prop := ∃ ts, Reads cs ts ∧ Inert js ts

namespace InertText

variable {cs ds : List Char} {js ks : List Json}

theorem mono (h : InertText cs js) (hsub : js.Sublist ks) : InertText cs ks :=
  h.imp fun _ hts => ⟨hts.1, hts.2.mono hsub⟩

theorem nil : InertText [] [] := ⟨[], .of_notMem (by decide), .nil⟩

theorem quoteLiteral (j : Json) : InertText (quoteLiteral (lexical j)).toList [j] :=
  ⟨_, .quoteLiteral _, .literal j⟩

theorem word (hw : InertWord js cs) (h : ∀ c ∈ cs, isDelimiter c = false ∧ c ≠ '\x27') :
    InertText cs js :=
  ⟨_, .of_notMem fun hm => (h _ hm).2 rfl, .word hw fun c hc => (h c hc).1⟩

theorem valueWord {s : String} (hs : s ∈ valueWords) : InertText s.toList [] := by
  refine word (.inr (.inl (by simpa using hs))) ?_
  revert s
  decide

theorem number (n : Number) : InertText n.text.toList [.num n] := by
  refine word (.inr (.inr ⟨n, List.mem_singleton_self _, by simp⟩)) fun c hc => ?_
  have hnumber := n.isNumberChar_of_mem_text c hc
  have hdelimiters : ∀ d ∈ [' ', ',', '(', ')'], isNumberChar d = false := by decide
  refine ⟨Bool.eq_false_iff.mpr fun hd => ?_, (isNumberChar_ne hnumber).2.1⟩
  rw [hdelimiters c (by simpa [isDelimiter] using hd)] at hnumber
  cases hnumber

theorem joined (hc : InertText cs js) (hd : InertText ds ks) {c : Char}
    (hdelimiter : isDelimiter c = true) : InertText (cs ++ c :: ds) (js ++ ks) := by
  obtain ⟨ts, hts, hjs⟩ := hc
  obtain ⟨us, hus, hks⟩ := hd
  exact ⟨_, hts.joined hus hdelimiter, hjs.joined hks hdelimiter⟩

theorem cons (h : InertText cs js) {c : Char} (hdelimiter : isDelimiter c = true) :
    InertText (c :: cs) js :=
  nil.joined h hdelimiter

theorem parenthesized {s : String} (h : InertText s.toList js) :
    InertText (parenthesized s).toList js := by
  have hclosed := (h.joined nil (c := ')') (by decide)).cons (c := '(') (by decide)
  simpa [Sql.parenthesized] using hclosed

/-- Delimiters may stand before an inert text. -/
theorem append_delimiters {sep : List Char} (hsep : ∀ c ∈ sep, isDelimiter c = true)
    (h : InertText cs js) : InertText (sep ++ cs) js := by
  induction sep with
  | nil => exact h
  | cons c sep ih =>
    rw [List.forall_mem_cons] at hsep
    exact (ih hsep.2).cons hsep.1

end InertText

/-! ## Values -/

/-- The second text is the first with its literals written in, and it is inert. -/
structure Written (s t : String) (js : List Json) : Prop where
  inlined : Inlined s t
  inert : InertText t.toList js

namespace Written

variable {s t : String} {js ks : List Json}

theorem mono (h : Written s t js) (hsub : js.Sublist ks) : Written s t ks :=
  ⟨h.inlined, h.inert.mono hsub⟩

theorem empty : Written "" "" [] := ⟨fragmentRelation_inlined.assembly.empty, .nil⟩

theorem quoteLiteral (isStatic : Bool) {j : Json} (hj : j.reserved? = none) :
    Written (literal isStatic (quoteLiteral (lexical j))) (quoteLiteral (lexical j)) [j] :=
  ⟨inlined_quoteLiteral isStatic (hasReserved_lexical hj), .quoteLiteral j⟩

theorem number (isStatic : Bool) (n : Number) :
    Written (literal isStatic n.text) n.text [.num n] :=
  ⟨inlined_number isStatic n.toList_text_ne_nil n.isNumberChar_of_mem_text, .number n⟩

theorem bool (isStatic b : Bool) :
    Written (literal isStatic (lexical (.bool b))) (lexical (.bool b)) [] :=
  ⟨inlined_bool isStatic b, .valueWord (by cases b <;> decide)⟩

theorem null (isStatic : Bool) : Written (literal isStatic (lexical .null)) (lexical .null) [] :=
  ⟨inlined_null isStatic, .valueWord (by decide)⟩

/-- Fragments with delimiters between them; a blank one is left out, with its scalars. -/
theorem inert_joinFragments {sep : String} {c : Char} {cs : List Char} (hcs : sep.toList = c :: cs)
    (hsep : ∀ d ∈ c :: cs, isDelimiter d = true) {as bs : List String}
    (h : RelatedAll Written as bs js) : InertText (joinFragments sep bs).toList js := by
  rw [List.forall_mem_cons] at hsep
  induction h with
  | nil => exact .nil
  | @cons a b as bs vs ws hab _ ih =>
    cases hblank : Text.isBlankText b with
    | true =>
      have hskip : Sql.joinFragments sep (b :: bs) = Sql.joinFragments sep bs := by
        simp [Sql.joinFragments, hblank]
      rw [hskip]
      exact ih.mono (List.sublist_append_right _ _)
    | false =>
      rcases joinFragments_cons sep bs hblank with ⟨-, hjoin⟩ | hjoin
      · rw [hjoin]
        exact hab.inert.mono (List.sublist_append_left _ _)
      · rw [hjoin, String.toList_append, String.toList_append, hcs, List.append_assoc]
        exact hab.inert.joined (ih.append_delimiters hsep.2) hsep.1

theorem relatedAll_inlined {as bs : List String} (h : RelatedAll Written as bs js) :
    RelatedAll (fun s t (_ : List Empty) => Inlined s t) as bs [] := by
  induction h with
  | nil => exact .nil
  | cons hab _ ih => exact @RelatedAll.cons _ _ _ _ _ _ [] [] hab.inlined ih

theorem parenthesized (h : Written s t js) : Written (parenthesized s) (parenthesized t) js :=
  ⟨@Assembly.parenthesized _ _ _ _ fragmentRelation_inlined.assembly _ _ [] h.inlined,
    h.inert.parenthesized⟩

end Written

/-- An element of an array, unless it is left out. -/
theorem written_element (isStatic : Bool) {stringLed : Bool} {j : Json} {text : String}
    (hj : j.reserved? = none) (htext : elementText? stringLed j = some text) :
    Written (literal isStatic text) text [j] := by
  have hquoted := Written.quoteLiteral isStatic hj
  have hnone : List.Sublist [] [j] := List.nil_sublist _
  cases j with
  | arr | obj => cases htext
  | str s => cases htext; exact hquoted
  | null => cases htext; cases stringLed; exacts [(Written.null isStatic).mono hnone, hquoted]
  | bool b => cases htext; cases stringLed; exacts [(Written.bool isStatic b).mono hnone, hquoted]
  | num n => cases htext; cases stringLed; exacts [Written.number isStatic n, hquoted]

theorem written_elements (isStatic stringLed : Bool) {js : List Json}
    (hjs : ∀ j ∈ js, j.reserved? = none) :
    ∃ ks, ks.Sublist js ∧
      RelatedAll Written ((js.filterMap (elementText? stringLed)).map (literal isStatic))
        ((js.filterMap (elementText? stringLed)).map (literal true)) ks := by
  induction js with
  | nil => exact ⟨[], .refl _, .nil⟩
  | cons j js ih =>
    rw [List.forall_mem_cons] at hjs
    obtain ⟨ks, hks, hall⟩ := ih hjs.2
    cases htext : elementText? stringLed j with
    | none =>
      rw [List.filterMap_cons_none htext]
      exact ⟨ks, hks.cons j, hall⟩
    | some text =>
      rw [List.filterMap_cons_some htext]
      exact ⟨_, hks.cons_cons j, .cons (written_element isStatic hjs.1 htext) hall⟩

theorem written_formatArray (isStatic : Bool) {js : List Json}
    (hjs : ∀ j ∈ js, j.reserved? = none) :
    Written (formatArray isStatic js).value (formatArray true js).value js := by
  obtain ⟨ks, hks, hall⟩ := written_elements isStatic (isStringLed js) hjs
  rw [value_formatArray, value_formatArray]
  have hinert : InertText (joinFragments ", " _).toList ks :=
    Written.inert_joinFragments rfl (by decide) hall
  exact ⟨fragmentRelation_inlined.assembly.joinFragments ", " (by decide)
    (Written.relatedAll_inlined hall), hinert.mono hks⟩

/-- A scalar of a datatype that is not raw. Where the datatype cannot take it nothing is written. -/
theorem written_formatScalar {d : Datatype} (hd : d ≠ .raw) (isStatic : Bool) {j : Json}
    (hj : j.reserved? = none) :
    Written (formatScalar d isStatic j).value (formatScalar d true j).value [j] := by
  have hempty : Written "" "" [j] := Written.empty.mono (List.nil_sublist _)
  cases d with
  | string => exact .quoteLiteral isStatic hj
  | raw => exact absurd rfl hd
  | array => exact written_formatArray isStatic (by simpa using hj)
  | function => exact hempty
  | number =>
    cases j with
    | num n => exact .number isStatic n
    | _ => exact hempty
  | boolean =>
    cases j with
    | bool b => exact (Written.bool isStatic b).mono (List.nil_sublist _)
    | _ => exact hempty

theorem written_formatEnd {d : Datatype} (hd : d ≠ .raw) (isStatic : Bool) {j : Option Json}
    (hj : ∀ k ∈ j.toList, k.reserved? = none) :
    Written (formatEnd d isStatic j).value (formatEnd d true j).value j.toList := by
  cases j with
  | none => exact .empty
  | some j => exact written_formatScalar hd isStatic (hj j (by simp))

/-! ## Right-hand sides -/

/-- The value is data: no function call, and raw only in an array. -/
def Value.isData (datatype : Datatype) : Value → Bool
  | .call _ => false
  | .array _ => true
  | _ => datatype != .raw

theorem written_formatValue {d : Datatype} (isStatic : Bool) {value : Value}
    (hdata : value.isData d = true) (hfree : ∀ j ∈ value.scalars, j.reserved? = none) :
    Written (formatValue d isStatic value).value (formatValue d true value).value
      value.scalars := by
  cases value with
  | literal scalar =>
    have hd : d ≠ .raw := by simpa [Value.isData] using hdata
    exact written_formatScalar hd isStatic (hfree _ (by simp [Value.scalars]))
  | array items => exact written_formatArray isStatic hfree
  | call => cases hdata
  | range | subquery | unsupported => exact Written.empty.mono (List.nil_sublist _)

/-- The fragments after an operator. -/
def operandTexts (operator : Operator) (datatype : Datatype) (isStatic : Bool) (value : Value) :
    List String :=
  match operator, value with
  | .isNull, _ | .isNotNull, _ => []
  | .between, .range lower upper =>
    [(formatEnd datatype isStatic lower).value, "AND", (formatEnd datatype isStatic upper).value]
  | .between, _ => []
  | .inList, _ | .notInList, _ => [parenthesized (formatValue datatype isStatic value).value]
  | _, _ => [(formatValue datatype isStatic value).value]

theorem value_rightHandSide (operator : Operator) (datatype : Datatype) (isStatic : Bool)
    (value : Value) :
    (rightHandSide operator datatype isStatic (some value)).value =
      joinFragments " " (operator.name :: operandTexts operator datatype isStatic value) := by
  have halone : joinFragments " " [operator.name] = operator.name := by
    cases operator <;> decide
  cases operator with
  | isNull | isNotNull => exact halone.symm
  | between =>
    cases value with
    | range => rfl
    | _ => exact halone.symm
  | _ => rfl

theorem written_operandTexts (operator : Operator) {d : Datatype} (isStatic : Bool) {value : Value}
    (hdata : value.isData d = true) (hfree : ∀ j ∈ value.scalars, j.reserved? = none) :
    ∃ ks, ks.Sublist value.scalars ∧
      RelatedAll Written (operandTexts operator d isStatic value)
        (operandTexts operator d true value) ks := by
  have hvalue := written_formatValue isStatic hdata hfree
  have hnone : ∃ ks, ks.Sublist value.scalars ∧ RelatedAll Written [] [] ks :=
    ⟨[], List.nil_sublist _, .nil⟩
  cases operator with
  | isNull | isNotNull => exact hnone
  | inList | notInList => exact ⟨_, .refl _, .single hvalue.parenthesized⟩
  | between =>
    cases value with
    | range lower upper =>
      have hd : d ≠ .raw := by simpa [Value.isData] using hdata
      simp only [Value.scalars, List.forall_mem_append] at hfree
      have hand : Written "AND" "AND" [] :=
        ⟨fragmentRelation_inlined.bare (by decide), .valueWord (by decide)⟩
      exact ⟨_, .refl _, .cons (written_formatEnd hd isStatic hfree.1)
        (.cons hand (.single (written_formatEnd hd isStatic hfree.2)))⟩
    | _ => exact hnone
  | _ => exact ⟨_, .refl _, .single hvalue⟩

/-- Whatever a typed value holds, the right-hand side of a comparison with it is the operator and
inert text: quoted literals that hold the plain texts of scalars of the value, in order, and outside
of them only numbers of the value, fixed words and delimiters. -/
theorem typed_values_inert (operator : Operator) (datatype : Datatype) (isStatic : Bool)
    (value : Value) (hdata : value.isData datatype = true)
    (hfree : ∀ j ∈ value.scalars, j.reserved? = none) :
    ∃ rest tokens,
      unmark (rightHandSide operator datatype isStatic (some value)).value =
        operator.name ++ rest ∧
      rest.toList.head?.all isDelimiter = true ∧ tokens? rest = some tokens ∧
      Inert value.scalars tokens := by
  obtain ⟨ks, hks, hall⟩ := written_operandTexts operator isStatic hdata hfree
  have hassembly := fragmentRelation_inlined.assembly
  have hinlined := hassembly.joinFragments " " (by decide)
    (@RelatedAll.cons _ _ _ _ _ _ [] [] (hassembly.name_operator operator)
      (Written.relatedAll_inlined hall))
  have hname : Text.isBlankText operator.name = false := by cases operator <;> decide
  rw [value_rightHandSide, hinlined.unmark_eq]
  rcases joinFragments_cons " " (operandTexts operator datatype true value) hname with
    ⟨-, hjoin⟩ | hjoin
  · exact ⟨"", [], by rw [hjoin, String.append_empty], rfl, rfl,
      Inert.nil.mono (List.nil_sublist _)⟩
  · have hinert : InertText (joinFragments " " _).toList ks :=
      Written.inert_joinFragments rfl (by decide) hall
    obtain ⟨tokens, hreads, htokens⟩ := (hinert.mono hks).cons (c := ' ') (by decide)
    refine ⟨" " ++ joinFragments " " (operandTexts operator datatype true value), tokens,
      by rw [hjoin, String.append_assoc], ?_, ?_, htokens⟩
    · simp [isDelimiter]
    · have hread := hreads [] rfl
      simpa [tokens?, readText] using hread

/-- Values that try to be more than data: a string that closes its quotes, an object as the end of a
range, and an array of raw values. -/
theorem typed_values_inert_attempts :
    ∃ list tokens range tokens',
      unmark (rightHandSide .inList .raw true
        (some (.array [.num (.integer 7), .str "') OR (1=1", .null, .obj []]))).value =
          "IN" ++ list ∧
      list = " (7, ''') OR (1=1', NULL)" ∧ tokens? list = some tokens ∧
      Inert [.num (.integer 7), .str "') OR (1=1", .null, .obj []] tokens ∧
      unmark (rightHandSide .between .string false
        (some (.range (some (.str "1; --")) (some (.obj [("a", .str "'")]))))).value =
          "BETWEEN" ++ range ∧
      range = " '1; --' AND '\x7b\"a\":\"''\"\x7d'" ∧
      tokens? range = some tokens' ∧
      Inert [.str "1; --", .obj [("a", .str "'")]] tokens' := by
  obtain ⟨list, tokens, hlist, -, htokens, hinert⟩ := typed_values_inert .inList .raw true
    (.array [.num (.integer 7), .str "') OR (1=1", .null, .obj []]) rfl
    (by decide +kernel)
  obtain ⟨range, tokens', hrange, -, htokens', hinert'⟩ := typed_values_inert .between .string false
    (.range (some (.str "1; --")) (some (.obj [("a", .str "'")]))) rfl
    (by decide +kernel)
  refine ⟨list, tokens, range, tokens', hlist, ?_, htokens, hinert, hrange, ?_, htokens', hinert'⟩
  · exact String.append_right_inj _ |>.mp (hlist.symm.trans (by decide +kernel))
  · exact String.append_right_inj _ |>.mp (hrange.symm.trans (by decide +kernel))

end QuerySql
