/-!
# 64-bit words

The numbers that fit a word of 64 bits, with a sign or without.
-/

namespace QuerySql.Word64

/-- The number of words. -/
def count : Nat := 0x10000000000000000

/-- The number of words that are not negative if words have a sign. -/
def signedCount : Nat := 0x8000000000000000

/-- The largest word without a sign. -/
def max : Nat := count - 1

/-- The number `n` or its negative, if it is a word with a sign. -/
def signed? (negative : Bool) (n : Nat) : Option Int :=
  if negative then
    if n ≤ signedCount then some (-n) else none
  else if n < signedCount then some n
  else none

/-- The number, if it is a word without a sign. -/
def unsigned? (n : Nat) : Option Nat := if n < count then some n else none

end QuerySql.Word64
