import QuerySql.Proofs.BoundValues
import QuerySql.Proofs.Statements

/-!
# The two forms of a statement agree

A statement is delivered with its literals written in, or with placeholders and values. Both are cut
from the same marked text at the same places: the pieces of text between the literals are the same,
and each value is read from the literal that stands in the other form.

* `filled`: pieces of text with something in between.
* `Agreement`: the two outcomes describe the same statement.
* `build_agrees_generate`: they do for queries and unions without reserved characters.
-/

namespace QuerySql

open Compile Sql

/-- The first piece, and each further piece after what stands before it. -/
def filled (first : String) : List (String × String) → String
  | [] => first
  | (between, next) :: rest => first ++ between ++ filled next rest

/-- The outcomes of building and generating describe the same statement, or why there is none. -/
structure Agreement (build : Except Error String) (generate : Except Error Statement) : Prop where
  depth (limit : Nat) :
    build = .error (.depthExceeded limit) ↔ generate = .error (.depthExceeded limit)
  rejected : build = .ok rejectionText ↔ generate = .error .injectionRejected
  statement : (∀ limit, build ≠ .error (.depthExceeded limit)) → build ≠ .ok rejectionText →
    ∃ (first : String) (rest : List (String × String)), hasReserved first = false ∧
      (∀ r ∈ rest, hasReserved r.1 = false ∧ hasReserved r.2 = false) ∧
      build = .ok (filled first rest) ∧
      generate = .ok ⟨filled first (rest.map fun r => ("?", r.2)),
        rest.map fun r => .ofLexical r.1⟩
  build_unmarked (sql : String) : build = .ok sql → hasReserved sql = false
  generate_unmarked (statement : Statement) : generate = .ok statement →
    hasReserved statement.sql = false ∧
      ∀ s, .string s ∈ statement.params → hasReserved s = false

/-! ## Pieces -/

theorem filled_append (s first : String) (rest : List (String × String)) :
    filled (s ++ first) rest = s ++ filled first rest := by
  cases rest with
  | nil => rfl
  | cons r rest => simp [filled, String.append_assoc]

theorem hasReserved_filled {first : String} {rest : List (String × String)}
    (hfirst : hasReserved first = false)
    (hrest : ∀ r ∈ rest, hasReserved r.1 = false ∧ hasReserved r.2 = false) :
    hasReserved (filled first rest) = false := by
  induction rest generalizing first with
  | nil => exact hfirst
  | cons r rest ih =>
    obtain ⟨hbetween, hnext⟩ := hrest r List.mem_cons_self
    have hrest := ih hnext fun t ht => hrest t (List.mem_cons_of_mem _ ht)
    simp [filled, hfirst, hbetween, hrest]

/-- The literals of a text part it into pieces. -/
theorem exists_pieces {parts : List Segment} (h : ∀ p ∈ parts, p.Unreserved) :
    ∃ (first : String) (rest : List (String × String)), hasReserved first = false ∧
      (∀ r ∈ rest, hasReserved r.1 = false ∧ hasReserved r.2 = false) ∧
      String.ofList (parts.flatMap Segment.written) = filled first rest ∧
      String.ofList (parts.map Segment.placeheld) = filled first (rest.map fun r => ("?", r.2)) ∧
      parts.filterMap Segment.bindValue? = rest.map fun r => .ofLexical r.1 := by
  induction parts with
  | nil => exact ⟨"", [], by decide, by simp, rfl, rfl, rfl⟩
  | cons p parts ih =>
    have hp := h p List.mem_cons_self
    obtain ⟨first, rest, hfirst, hrest, hbuild, hsql, hparams⟩ :=
      ih fun q hq => h q (List.mem_cons_of_mem _ hq)
    cases p with
    | plain c =>
      have hcons : ∀ cs : List Char,
          String.ofList ([c] ++ cs) = String.ofList [c] ++ String.ofList cs :=
        fun cs => String.ofList_append
      refine ⟨String.ofList [c] ++ first, rest, ?_, hrest, ?_, ?_, hparams⟩
      · have hc : hasReserved (String.ofList [c]) = false := hasReserved_ofList.mpr hp
        rw [hasReserved_append, hc, hfirst]
        rfl
      · rw [filled_append, ← hbuild]
        exact hcons _
      · rw [filled_append, ← hsql]
        exact hcons _
    | literal b =>
      refine ⟨"", (String.ofList b, first) :: rest, by decide, ?_, ?_, ?_, ?_⟩
      · rw [List.forall_mem_cons]
        exact ⟨⟨hasReserved_ofList.mpr hp, hfirst⟩, hrest⟩
      · rw [filled, ← hbuild]
        simp [Segment.written, String.ofList_append]
      · rw [List.map_cons, List.map_cons, filled, ← hsql]
        simp [Segment.placeheld]
      · simp [Segment.bindValue?, hparams]

/-! ## Statements -/

theorem StatementText.unmark_ne_rejectionText {s : String} {parts : List Segment}
    (h : StatementText s parts) : unmark s ≠ rejectionText := by
  intro he
  obtain ⟨rest, hrest⟩ := List.head?_eq_some_iff.mp h.head
  rw [h.marked.unmark_eq, hrest] at he
  have hhead := congrArg (fun t => t.toList.head?) he
  have hE : rejectionText.toList.head? = some 'E' := by decide
  simp [hE, Segment.written] at hhead

theorem agreement_of_rejects {options : Options} {s : String} (hr : options.rejects s = true) :
    Agreement (.ok (if options.rejects s then rejectionText else unmark s))
      (if options.rejects s then .error .injectionRejected else .ok (Statement.ofMarked s)) := by
  rw [hr]
  exact
    { depth := fun limit => ⟨fun h => (by cases h), fun h => (by cases h)⟩
      rejected := ⟨fun _ => rfl, fun _ => rfl⟩
      statement := fun _ hne => absurd rfl hne
      build_unmarked := fun sql h => by
        cases h
        exact (by decide : hasReserved rejectionText = false)
      generate_unmarked := fun statement h => by cases h }

theorem agreement_of_passes {options : Options} {s : String} {parts : List Segment}
    (h : StatementText s parts) (hr : options.rejects s = false) :
    Agreement (.ok (if options.rejects s then rejectionText else unmark s))
      (if options.rejects s then .error .injectionRejected else .ok (Statement.ofMarked s)) := by
  obtain ⟨first, rest, hfirst, hrest, hbuild, hsql, hparams⟩ := exists_pieces h.marked.unreserved
  have hne := h.unmark_ne_rejectionText
  rw [hr]
  simp only [Bool.false_eq_true, if_false]
  rw [h.marked.unmark_eq, hbuild] at hne ⊢
  rw [h.marked.ofMarked_eq, hsql, hparams]
  have hpieces : ∀ r ∈ rest.map fun r => ("?", r.2),
      hasReserved r.1 = false ∧ hasReserved r.2 = false := by
    intro r hm
    obtain ⟨r', hr', rfl⟩ := List.mem_map.mp hm
    exact ⟨(by decide : hasReserved "?" = false), (hrest r' hr').2⟩
  exact
    { depth := fun limit => ⟨fun h => (by cases h), fun h => (by cases h)⟩
      rejected := ⟨fun h => absurd (Except.ok.inj h) hne, fun h => (by cases h)⟩
      statement := fun _ _ => ⟨first, rest, hfirst, hrest, rfl, rfl⟩
      build_unmarked := fun sql h => by
        cases h
        exact hasReserved_filled hfirst hrest
      generate_unmarked := fun statement h => by
        cases h
        refine ⟨hasReserved_filled hfirst hpieces, fun t ht => ?_⟩
        obtain ⟨r, hr, hrt⟩ := List.mem_map.mp ht
        rw [hasReserved_eq_false]
        exact fun c hc => hasReserved_eq_false.mp (hrest r hr).1 c
          (BindValue.mem_of_ofLexical_eq_string hrt hc) }

/-- Whatever the marked text is, both forms of it agree. -/
theorem Compiled.agreement {x : Except Error String} (h : Compiled x) (options : Options) :
    Agreement (x.bind fun s => .ok (if options.rejects s then rejectionText else unmark s))
      (x.bind fun s => if options.rejects s then .error .injectionRejected
        else .ok (Statement.ofMarked s)) := by
  cases h with
  | depth limit =>
    exact
      { depth := fun limit' => by simp [Except.bind]
        rejected := ⟨fun h => (by cases h), fun h => (by cases h)⟩
        statement := fun hne _ => absurd rfl (hne limit)
        build_unmarked := fun sql h => by cases h
        generate_unmarked := fun statement h => by cases h }
  | text hs =>
    rename_i s parts
    cases hr : options.rejects s with
    | true => exact agreement_of_rejects hr
    | false => exact agreement_of_passes hs hr

/-- Building and generating describe the same statement, for queries and for unions. -/
theorem build_agrees_generate (options : Options) :
    (∀ q : Query, q.Unreserved →
      Agreement (options.build q).result (options.generate q).result) ∧
    ∀ members : List Query, members ≠ [] → (∀ q ∈ members, q.Unreserved) →
      Agreement (options.buildUnion members).result (options.generateUnion members).result := by
  constructor
  · intro q hq
    rw [options.result_build, options.result_generate]
    exact (compiled_markup hq).agreement options
  · intro members hne hq
    rw [options.result_buildUnion, options.result_generateUnion]
    exact (compiled_unionMarkup hne hq).agreement options

theorem build_agrees_generate_rowsOfOwner :
    (rowsOfOwner (.str "a  'b") 5).Unreserved ∧ (rowsOfOwner .null 7).Unreserved ∧
      Agreement (Options.build {} (rowsOfOwner (.str "a  'b") 5)).result
        (Options.generate {} (rowsOfOwner (.str "a  'b") 5)).result ∧
      Agreement
        (Options.buildUnion {} [rowsOfOwner (.str "a  'b") 5, rowsOfOwner .null 7]).result
        (Options.generateUnion {} [rowsOfOwner (.str "a  'b") 5, rowsOfOwner .null 7]).result := by
  have h₁ : (rowsOfOwner (.str "a  'b") 5).Unreserved := by decide +kernel
  have h₂ : (rowsOfOwner .null 7).Unreserved := by decide +kernel
  refine ⟨h₁, h₂, (build_agrees_generate {}).1 _ h₁, (build_agrees_generate {}).2 _ (by simp) ?_⟩
  simp [h₁, h₂]

end QuerySql
