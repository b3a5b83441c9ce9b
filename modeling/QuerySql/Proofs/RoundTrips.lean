import QuerySql.Proofs.Decimals
import QuerySql.Proofs.Leaves
import QuerySql.Proofs.Segments

/-!
# Round trips of bound literals

A literal that is to be bound is written in its SQL form between markers. Taking it out again reads
that form back. The two directions share no code, and the value that is bound is still the one the
query holds: the text of a string with every apostrophe in it, an integer up to the ends of a
64-bit word, any other number as a binary number, a boolean as itself.

* `ofMarked_mark`: one marked literal leaves one placeholder and one value.
* `bound_literals_round_trip`: the value is that of the literal, for all datatypes with a literal
  form of their own.
-/

namespace QuerySql

open Sql Compile

/-- The statement that a single literal with a datatype makes, if it is to be bound. -/
def boundAlone (datatype : Datatype) (scalar : Json) : Statement :=
  .ofMarked (formatValue datatype false (.literal scalar)).value

/-- A marked literal leaves a placeholder, and the value of its text. -/
theorem ofMarked_mark {s : String} (h : hasReserved s = false) :
    Statement.ofMarked (mark s) = ⟨"?", [.ofLexical s]⟩ := by
  rw [(Marked.mark h).ofMarked_eq]
  simp [Segment.placeheld, Segment.bindValue?]

theorem boundAlone_string {j : Json} (h : j.reserved? = none) :
    boundAlone .string j = ⟨"?", [.string (lexical j)]⟩ := by
  have hquoted := hasReserved_quoteLiteral (hasReserved_lexical h)
  rw [← BindValue.ofLexical_quoteLiteral]
  exact ofMarked_mark hquoted

theorem boundAlone_number {n : Number} (h : n.Representable) :
    boundAlone .number (.num n) = ⟨"?", [n.bindValue]⟩ := by
  have hbare : hasReserved n.text = false := hasReserved_lexical (j := .num n) rfl
  rw [← Number.ofLexical_text h]
  exact ofMarked_mark hbare

/-- An integer is bound with a sign as long as a signed word can hold it. -/
theorem boundAlone_integer {n : Int} (hlow : -2 ^ 63 ≤ n) (hhigh : n < 2 ^ 64) :
    boundAlone .number (.num (.integer n)) =
      ⟨"?", [if n < 2 ^ 63 then .integer n else .unsigned n.toNat]⟩ :=
  boundAlone_number (n := .integer n) ⟨hlow, hhigh⟩

theorem boundAlone_boolean (b : Bool) : boundAlone .boolean (.bool b) = ⟨"?", [.boolean b]⟩ := by
  cases b <;> decide

/-- A bound literal is the only placeholder of its statement, and its value is what the query holds:
the plain text of a string, a number of the same value, in a signed word before an unsigned one and
never for a number that is no integer, a boolean. Numbers of documents are finite, which is all that
is asked of them (`Json.numeric_of_parse?`). -/
theorem bound_literals_round_trip :
    (∀ j : Json, j.reserved? = none →
      boundAlone .string j = ⟨"?", [.string (lexical j)]⟩) ∧
    (∀ n : Int, -2 ^ 63 ≤ n → n ≤ 2 ^ 63 - 1 →
      boundAlone .number (.num (.integer n)) = ⟨"?", [.integer n]⟩) ∧
    (∀ n : Nat, 2 ^ 63 ≤ n → n ≤ 2 ^ 64 - 1 →
      boundAlone .number (.num (.integer n)) = ⟨"?", [.unsigned n]⟩) ∧
    (∀ x : Binary64, (Number.float x).Representable →
      boundAlone .number (.num (.float x)) = ⟨"?", [.float x]⟩) ∧
    (∀ b : Bool, boundAlone .boolean (.bool b) = ⟨"?", [.boolean b]⟩) := by
  refine ⟨fun _ => boundAlone_string, fun n hlow hhigh => ?_, fun n hlow hhigh => ?_,
    fun x => boundAlone_number, boundAlone_boolean⟩
  · rw [boundAlone_integer hlow (by omega), if_pos (by omega)]
  · rw [boundAlone_integer (by omega) (by omega), if_neg (by omega), Int.toNat_natCast]

/-- A quoted text with an odd run of apostrophes that ends like a literal does, the numbers at the
ends of the words, and a number with a point. -/
theorem bound_literals_round_trip_ends :
    (Json.str "'it'''s 1.5':jql").reserved? = none ∧
    boundAlone .string (.str "'it'''s 1.5':jql") =
      ⟨"?", [.string "'it'''s 1.5':jql"]⟩ ∧
    boundAlone .number (.num (.integer (-2 ^ 63))) = ⟨"?", [.integer (-2 ^ 63)]⟩ ∧
    boundAlone .number (.num (.integer (2 ^ 63 - 1))) = ⟨"?", [.integer (2 ^ 63 - 1)]⟩ ∧
    boundAlone .number (.num (.integer (2 ^ 63 : Nat))) = ⟨"?", [.unsigned (2 ^ 63)]⟩ ∧
    boundAlone .number (.num (.integer (2 ^ 64 - 1 : Nat))) = ⟨"?", [.unsigned (2 ^ 64 - 1)]⟩ ∧
    (Number.float (.finite true 0x18000000000000 (-52))).Representable ∧
    boundAlone .number (.num (.float (.finite true 0x18000000000000 (-52)))) =
      ⟨"?", [.float (.finite true 0x18000000000000 (-52))]⟩ := by
  obtain ⟨hstring, hinteger, hunsigned, hfloat, -⟩ := bound_literals_round_trip
  refine ⟨by decide +kernel, hstring _ (by decide +kernel), hinteger _ (by decide) (by decide),
    hinteger _ (by decide) (by decide), hunsigned _ (by decide) (by decide),
    hunsigned _ (by decide) (by decide), by decide, hfloat _ (by decide)⟩

end QuerySql
