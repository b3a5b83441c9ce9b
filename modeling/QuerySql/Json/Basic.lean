import QuerySql.Binary64.Basic

/-!
# JSON values

A JSON document as a tree. Objects keep their members in document order, and a key that is given
again keeps its place and takes the new value.
-/

namespace QuerySql

/-- A JSON number: an integer that fits a 64-bit word, signed or not, or else a binary number. -/
inductive Number where
  | integer (n : Int)
  | float (x : Binary64)
  deriving DecidableEq, Repr

/-- The number as a natural number, if it is an integer and not negative. -/
def Number.toNat? : Number → Option Nat
  | .integer n => if 0 ≤ n then some n.toNat else none
  | .float _ => none

/-- A JSON value. -/
inductive Json where
  | null
  | bool (b : Bool)
  | num (n : Number)
  | str (s : String)
  | arr (items : List Json)
  | obj (members : List (String × Json))
  deriving Inhabited

namespace Json

/-- Sets a member: a known key keeps its place, a new one goes to the end. -/
def setMember (key : String) (value : Json) : List (String × Json) → List (String × Json)
  | [] => [(key, value)]
  | (k, v) :: rest =>
    if k = key then (k, value) :: rest else (k, v) :: setMember key value rest

/-- The object whose members are set one after the other. -/
def ofMembers (members : List (String × Json)) : Json :=
  .obj (members.foldl (fun acc m => setMember m.1 m.2 acc) [])

/-- The value as a natural number, if it is an integer and not negative. -/
def toNat? : Json → Option Nat
  | .num n => n.toNat?
  | _ => none

end Json

end QuerySql
