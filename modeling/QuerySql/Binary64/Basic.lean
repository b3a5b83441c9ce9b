/-!
# Binary floating point numbers

The finite numbers `± mantissa * 2 ^ exponent` of the 64-bit binary format, and the two
infinities. Arithmetic is exact on natural numbers and rounded once, to the nearest number of the
format, a half going to the even mantissa.

* `ofRatio` is that rounding; `ofNat`, `mul`, `div` and `ofDecimal` are defined by it.
-/

namespace QuerySql

/-- A number of the 64-bit binary format. -/
inductive Binary64 where
  /-- `mantissa * 2 ^ exponent`, or its negative. -/
  | finite (negative : Bool) (mantissa : Nat) (exponent : Int)
  /-- Beyond every finite number, on either side. -/
  | infinite (negative : Bool)
  deriving DecidableEq, Repr

namespace Binary64

/-- The least exponent of the format. -/
def minExponent : Int := -1074

/-- The greatest exponent of the format. -/
def maxExponent : Int := 971

/-- The least mantissa of a number that is not subnormal. -/
def minMantissa : Nat := 0x10000000000000

/-- The quotient rounded to the nearest natural number, a half to the even one. -/
def roundQuotient (num den : Nat) : Nat :=
  let q := num / den
  let r := num % den
  if 2 * r < den then q
  else if den < 2 * r then q + 1
  else q + q % 2

/-- Numerator and denominator of `num / den * 2 ^ shift`. -/
def scaleRatio (num den : Nat) (shift : Int) : Nat × Nat :=
  (num <<< shift.toNat, den <<< (-shift).toNat)

/-- The greatest `l` with `2 ^ l ≤ num / den`, for positive numbers. -/
def floorLog2 (num den : Nat) : Int :=
  let guess : Int := num.log2 - den.log2
  let (n, d) := scaleRatio num den (-guess)
  if d ≤ n then guess else guess - 1

/-- The number nearest to `num / den`, with the given sign. -/
def ofRatio (negative : Bool) (num den : Nat) : Binary64 :=
  if num = 0 then .finite negative 0 minExponent
  else
    let e := max (floorLog2 num den - 52) minExponent
    let (n, d) := scaleRatio num den (-e)
    let m := roundQuotient n d
    let (m, e) := if m = 2 * minMantissa then (minMantissa, e + 1) else (m, e)
    if maxExponent < e then .infinite negative else .finite negative m e

/-- The number nearest to a natural number. -/
def ofNat (n : Nat) : Binary64 := ofRatio false n 1

/-- The number is an infinity. -/
def isInfinite : Binary64 → Bool
  | .finite .. => false
  | .infinite _ => true

/-- The number with the given sign in place of its own. -/
def withSign (negative : Bool) : Binary64 → Binary64
  | .finite _ m e => .finite negative m e
  | .infinite _ => .infinite negative

/-- The rounded product of two finite numbers; infinite if a factor is. -/
def mul : Binary64 → Binary64 → Binary64
  | .finite s m e, .finite s' m' e' =>
    let (n, d) := scaleRatio (m * m') 1 (e + e')
    ofRatio (s != s') n d
  | .finite s .., .infinite s' | .infinite s, .finite s' .. | .infinite s, .infinite s' =>
    .infinite (s != s')

/-- The rounded quotient of a finite number by one that is not zero; zero if the divisor is
infinite. -/
def div : Binary64 → Binary64 → Binary64
  | .finite s m e, .finite s' m' e' =>
    let (n, d) := scaleRatio m m' (e - e')
    ofRatio (s != s') n d
  | .finite s .., .infinite s' => .finite (s != s') 0 minExponent
  | .infinite s, .finite s' .. | .infinite s, .infinite s' => .infinite (s != s')

/-- The number nearest to `10 ^ e`. -/
def powerOfTen (e : Nat) : Binary64 := ofNat (Nat.pow 10 e)

/-- The number nearest to the decimal `coefficient * 10 ^ exponent`. A decimal of 10 ^ 309 or more
is infinite and one below 10 ^ -324 is zero, so no larger power of ten is formed. -/
def ofDecimal (negative : Bool) (coefficient : Nat) (exponent : Int) : Binary64 :=
  let places : Int := (Nat.toDigits 10 coefficient).length
  if coefficient = 0 ∨ places + exponent ≤ -324 then .finite negative 0 minExponent
  else if 310 < places + exponent then .infinite negative
  else ofRatio negative (coefficient * Nat.pow 10 exponent.toNat) (Nat.pow 10 (-exponent).toNat)

end Binary64

end QuerySql
