import QuerySql.Proofs.Recursion

/-!
# Changing the literals of a query

Two queries with the same tree compile to texts that are put together alike. If a relation between
texts is kept by the ways of putting texts together, and relates what is written for each literal
of one query to what is written for the literal in its place, then it relates the two statements.

* `LiteralMap`: another literal for each literal, by its place; `Query.mapLiterals` replaces all.
* `LiteralMap.Keeps`: the map and the relation go together on single literals.
* `LiteralMap.Keeps.markup_related`: then they do on whole queries, with the same reasons to stop.
-/

namespace QuerySql

open Compile Sql

/-- Another literal for each literal of a query, depending on its place. -/
structure LiteralMap where
  /-- Another flag that says that the literals of a comparison or typed value are static. -/
  flag : Bool → Bool := id
  scalar : Option Datatype → Bool → Json → Json
  item : Bool → Json → Json
  bound : RowBound → RowBound

/-- Replaces values as the map replaces literals. The parameters of a function in a select list are
not among them. -/
def LiteralMap.revision (m : LiteralMap) : Revision where
  flag := m.flag
  scalar := m.scalar
  array isStatic items := items.map (m.item isStatic)
  selected items := items
  bound := m.bound

/-- Replaces the literals of a query. -/
def Query.mapLiterals (m : LiteralMap) (q : Query) : Query := q.revise m.revision

/-! ## Relations that single literals keep -/

/-- On the leaves with property `P`, the relation holds between what is written for a literal and
for the literal in its place. -/
structure LiteralMap.Keeps (m : LiteralMap) (P : Leaf → Prop) (R : String → String → Prop) :
    Prop where
  relation : FragmentRelation R
  unreserved {l : Leaf} : P l → l.isUnreserved = true
  scalar {s : String} {d : Datatype} {isStatic : Bool} {j : Json} : Datatype.parse s = .ok d →
    P (.scalar (some s) isStatic j) →
      R (formatScalar d isStatic j).value
        (formatScalar d (m.flag isStatic) (m.scalar (some d) isStatic j)).value
  items {isStatic : Bool} {js : List Json} : (∀ j ∈ js, P (.item isStatic j)) →
    R (formatArray isStatic js).value
      (formatArray (m.flag isStatic) (js.map (m.item isStatic))).value
  bound {b : RowBound} : P (.bound b) → R (boundText b) (boundText (m.bound b))

namespace LiteralMap.Keeps

variable {m : LiteralMap} {P : Leaf → Prop} {R : String → String → Prop} (h : m.Keeps P R)

include h

theorem respects : m.revision.Respects { scalar _ _ _ := [], array _ _ := [] } P
    (hasReserved · = false) (fun s t (_ : List Empty) => R s t) where
  assembly := h.relation.assembly
  name hs := by simpa using h.unreserved hs
  field hj := hasReserved_lexical (by simpa using h.unreserved hj)
  scalar := h.scalar
  array := h.items
  selected hjs :=
    h.relation.bare (hasReserved_formatArray fun j hj => by simpa using h.unreserved (hjs j hj))
  isEmpty_selected _ := rfl
  bound := h.bound

/-- The statements of the two queries are related, or neither is compiled for the same reason. -/
theorem markup_related (scope : Scope) (q : Query) (hl : ∀ l ∈ q.leaves, P l) :
    SameOutcome R (markup scope q).result (markup scope (q.mapLiterals m)).result :=
  h.respects.markup_related scope q hl

/-- The statements of two unions are related, member by member. -/
theorem unionMarkup_related (limit : Nat) {members : List Query} (hne : members ≠ [])
    (hl : ∀ q ∈ members, ∀ l ∈ q.leaves, P l) :
    SameOutcome R (unionMarkup limit members).result
      (unionMarkup limit (members.map (Query.mapLiterals m))).result :=
  h.respects.unionMarkup_related limit hne hl

end LiteralMap.Keeps

end QuerySql
