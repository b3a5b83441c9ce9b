/-!
# Ranges of code points

A character property is a list of ranges of code points in increasing order.
-/

namespace QuerySql.Text

/-- The character lies in one of the ranges, which are in increasing order. -/
def inRanges : List (Nat × Nat) → Char → Bool
  | [], _ => false
  | (first, last) :: rest, c => first ≤ c.toNat && (c.toNat ≤ last || inRanges rest c)

end QuerySql.Text
