import QuerySql.Json.Basic
import QuerySql.Word64

/-!
# Reading JSON numbers

A number is first split into its parts as written, then given a value. Integers that fit a 64-bit
word are kept exactly; `-0` and every other number become binary numbers.

A binary number comes from a significand of at most 64 bits and a power of ten: digits that do not
fit the significand are dropped, before the point at the cost of a power of ten each. Significand
and power are rounded to binary numbers first and then multiplied or divided, so the result can
differ from the nearest one in its last bit. A number too large for the format has no value.

* `NumberText.scan?` splits, `NumberText.value?` evaluates.
-/

namespace QuerySql

/-- The digit that a character stands for. -/
def digitValue (c : Char) : Nat := c.toNat - '0'.toNat

/-- The number that a row of digits stands for. -/
def digitsValue (ds : List Char) : Nat := ds.foldl (fun n d => 10 * n + digitValue d) 0

/-- A number as written. -/
structure NumberText where
  negative : Bool
  whole : List Char
  fraction : Option (List Char)
  /-- Whether the exponent is negative, and its digits. -/
  exponent : Option (Bool × List Char)

namespace NumberText

/-- The largest exponent that is read. -/
def maxExponent : Nat := 0x7FFFFFFF

/-- The largest power of ten in the range of binary numbers. -/
def maxPower : Nat := 308

/-- A sign, possibly absent, and whether it is a minus. -/
def scanSign (cs : List Char) : Bool × List Char :=
  match cs with
  | '-' :: rest => (true, rest)
  | '+' :: rest => (false, rest)
  | _ => (false, cs)

/-- A point and at least one digit, or no fraction at all. -/
def scanFraction? (cs : List Char) : Option (Option (List Char) × List Char) :=
  match cs with
  | '.' :: rest =>
    let ds := rest.takeWhile Char.isDigit
    if ds.isEmpty then none else some (some ds, rest.dropWhile Char.isDigit)
  | _ => some (none, cs)

/-- An exponent with at least one digit, or none at all. -/
def scanExponent? (cs : List Char) : Option (Option (Bool × List Char) × List Char) :=
  match cs with
  | 'e' :: rest | 'E' :: rest =>
    let (negative, rest) := scanSign rest
    let ds := rest.takeWhile Char.isDigit
    if ds.isEmpty then none else some (some (negative, ds), rest.dropWhile Char.isDigit)
  | _ => some (none, cs)

/-- Splits a number off the text. A whole part of several digits does not start with a zero. -/
def scan? (cs : List Char) : Option (NumberText × List Char) := do
  let (negative, rest) := match cs with
    | '-' :: rest => (true, rest)
    | _ => (false, cs)
  let whole := rest.takeWhile Char.isDigit
  if whole.isEmpty || (whole.head? == some '0' && whole.length > 1) then none
  else
    let (fraction, rest) ← scanFraction? (rest.dropWhile Char.isDigit)
    let (exponent, rest) ← scanExponent? rest
    some (⟨negative, whole, fraction, exponent⟩, rest)

/-- The significand that the digits of the whole part add up to, and how many are dropped. -/
def takeWhole : Nat → List Char → Nat × Nat
  | significand, [] => (significand, 0)
  | significand, d :: ds =>
    let next := 10 * significand + digitValue d
    if Word64.max < next then (significand, ds.length + 1) else takeWhole next ds

/-- The significand after the digits of the fraction, and how many are taken. -/
def takeFraction : Nat → List Char → Nat × Nat
  | significand, [] => (significand, 0)
  | significand, d :: ds =>
    let next := 10 * significand + digitValue d
    if Word64.max < next then (significand, 0)
    else
      let (result, taken) := takeFraction next ds
      (result, taken + 1)

/-- `significand / 10 ^ power`. Powers beyond the largest are divided off in steps; the third
leaves nothing of any significand. -/
def scaleDown (significand power : Nat) : Binary64 :=
  let steps := (power - 1) / maxPower
  let step (f : Binary64) := f.div (.powerOfTen maxPower)
  (Nat.repeat step (min steps 3) (.ofNat significand)).div
    (.powerOfTen (power - steps * maxPower))

/-- `significand * 10 ^ power`, unless it is too large. -/
def scale? (significand : Nat) (power : Int) : Option Binary64 :=
  if power < 0 then some (scaleDown significand power.natAbs)
  else if significand = 0 then some (.ofNat 0)
  else if (maxPower : Int) < power then none
  else
    let f := (Binary64.ofNat significand).mul (.powerOfTen power.toNat)
    if f.isInfinite then none else some f

/-- The number as a binary number, unless it is too large. -/
def float? (t : NumberText) : Option Binary64 :=
  let (significand, dropped) := takeWhole 0 t.whole
  let (significand, taken) := takeFraction significand (t.fraction.getD [])
  let power : Int := dropped - taken
  let magnitude? := match t.exponent with
    | none => scale? significand power
    | some (negative, ds) =>
      let e := digitsValue ds
      if maxExponent < e then
        if negative || significand == 0 then some (.ofNat 0) else none
      else scale? significand (if negative then power - e else power + e)
  magnitude?.map (·.withSign t.negative)

/-- The value of the number, unless it is too large. -/
def value? (t : NumberText) : Option Number :=
  let n := digitsValue t.whole
  match t.fraction, t.exponent with
  | none, none =>
    if t.negative then
      if 0 < n ∧ n ≤ Word64.signedCount then some (.integer (-n)) else t.float?.map .float
    else if n ≤ Word64.max then some (.integer n)
    else t.float?.map .float
  | _, _ => t.float?.map .float

end NumberText

end QuerySql
