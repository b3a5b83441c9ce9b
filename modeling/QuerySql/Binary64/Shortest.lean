import QuerySql.Binary64.Basic

/-!
# The shortest decimal

The decimal with the fewest digits that rounds to a given binary number; of several, the one
nearest to the number, and of two equally near the one with an even last digit.

The decimals that round to a number fill an interval around it. Grids of decimals are tried from
the coarsest, one digit, on. A grid that meets the interval does so at one of the two points next
to the number, so only these are tested.

* `shortest` is the digits and the power of ten of that decimal.
-/

namespace QuerySql.Binary64

/-- The greatest `k` with `10 ^ k ≤ num / den`, for positive numbers. -/
def floorLog10 (num den : Nat) : Int :=
  if den ≤ num then ((Nat.toDigits 10 (num / den)).length : Int) - 1
  else
    let k := (Nat.toDigits 10 (den / num)).length - 1
    if num * Nat.pow 10 k = den then -(k : Int) else -((k : Int) + 1)

/-- `a / b` lies in the interval of numbers that round to `mantissa * 2 ^ exponent`. Its ends
belong to it if the mantissa is even; below a power of two it is half as wide. -/
def roundsTo (mantissa : Nat) (exponent : Int) (a b : Nat) : Bool :=
  let quarters := 4 * mantissa
  let below := if mantissa = minMantissa ∧ minExponent < exponent then 1 else 2
  let (low, lowDen) := scaleRatio (quarters - below) 4 exponent
  let (high, highDen) := scaleRatio (quarters + 2) 4 exponent
  let fromLow := compare (low * b) (a * lowDen)
  let toHigh := compare (a * highDen) (high * b)
  if mantissa % 2 = 0 then fromLow != .gt && toHigh != .gt else fromLow == .lt && toHigh == .lt

/-- The better of the two points next to `num / den` on the grid of multiples of `10 ^ k`, if one
of them rounds to the number. -/
def gridPoint? (mantissa : Nat) (exponent : Int) (num den : Nat) (k : Int) : Option Nat :=
  let up := Nat.pow 10 k.toNat
  let down := Nat.pow 10 (-k).toNat
  let n := num * down
  let d := den * up
  let fits (q : Nat) := roundsTo mantissa exponent (q * up) down
  let q := n / d
  let r := n % d
  match fits q, fits (q + 1) with
  | true, true => some (if 2 * r < d then q else if d < 2 * r then q + 1 else q + q % 2)
  | true, false => some q
  | false, true => some (q + 1)
  | false, false => none

/-- Takes zeros off the end of the digits, at most `fuel` of them. -/
def dropZeros : Nat → Nat → Int → Nat × Int
  | 0, q, k => (q, k)
  | fuel + 1, q, k => if q % 10 = 0 then dropZeros fuel (q / 10) (k + 1) else (q, k)

/-- Digits `q` and power `k` of the shortest decimal `q * 10 ^ k` that rounds to
`mantissa * 2 ^ exponent`, for a positive mantissa. Seventeen digits always suffice. -/
def shortest (mantissa : Nat) (exponent : Int) : Nat × Int :=
  let (num, den) := scaleRatio mantissa 1 exponent
  let top := floorLog10 num den
  let grids := (List.range 17).map fun (i : Nat) => top - (i : Int)
  match grids.findSome? fun k => (gridPoint? mantissa exponent num den k).map (·, k) with
  | some (q, k) => dropZeros 17 q k
  | none => (mantissa, exponent)

end QuerySql.Binary64
