import QuerySql.Binary64.Shortest
import QuerySql.Json.Basic

/-!
# JSON text

Values are written without spaces, members in their order. Strings escape quotes, backslashes and
control characters and nothing else. A binary number has the fewest digits that read back.

* `FloatLayout` is where plain decimals end and powers of ten begin.
* `Number.text`, `Json.text` write a number and a value.
-/

namespace QuerySql

/-- The powers of ten of a first digit between which a decimal is written plainly. -/
structure FloatLayout where
  least : Int
  greatest : Int

/-- JSON writes a decimal plainly from 0.00001 up to sixteen places before the point. -/
def Json.floatLayout : FloatLayout := ⟨-5, 15⟩

/-- The decimal `digits * 10 ^ power` as a plain decimal, which always has a point, or with a
signed power of ten. -/
def FloatLayout.decimal (layout : FloatLayout) (digits : List Char) (power : Int) : List Char :=
  let first : Int := power + digits.length - 1
  if layout.least ≤ first ∧ first ≤ layout.greatest then
    if 0 ≤ power then digits ++ List.replicate power.toNat '0' ++ ['.', '0']
    else if 0 ≤ first then
      digits.take (first.toNat + 1) ++ '.' :: digits.drop (first.toNat + 1)
    else ['0', '.'] ++ List.replicate (-first - 1).toNat '0' ++ digits
  else
    let fraction := if digits.length ≤ 1 then [] else '.' :: digits.drop 1
    let sign := if first < 0 then '-' else '+'
    digits.take 1 ++ fraction ++ ['e', sign] ++ Nat.toDigits 10 first.natAbs

/-- A binary number in decimal; an infinity has no number and is written `null`. -/
def Binary64.text : Binary64 → String
  | .infinite _ => "null"
  | .finite negative m e =>
    let (q, k) := if m = 0 then (0, 0) else Binary64.shortest m e
    let digits := Json.floatLayout.decimal (Nat.toDigits 10 q) k
    String.ofList (if negative then '-' :: digits else digits)

/-- An integer in decimal. -/
def integerText (n : Int) : String :=
  if n < 0 then "-" ++ Nat.repr n.natAbs else Nat.repr n.natAbs

/-- The text of a number. -/
def Number.text : Number → String
  | .integer n => integerText n
  | .float x => x.text

namespace Json

/-- A character inside a JSON string. -/
def escapeChar (c : Char) : List Char :=
  if c = '\x22' ∨ c = '\\' then ['\\', c]
  else if c = '\x08' then ['\\', 'b']
  else if c = '\t' then ['\\', 't']
  else if c = '\n' then ['\\', 'n']
  else if c = '\x0c' then ['\\', 'f']
  else if c = '\r' then ['\\', 'r']
  else if c.toNat < 16 then ['\\', 'u', '0', '0', '0'] ++ Nat.toDigits 16 c.toNat
  else if c.toNat < 32 then ['\\', 'u', '0', '0'] ++ Nat.toDigits 16 c.toNat
  else [c]

/-- A string between quotes. -/
def stringText (s : String) : String :=
  String.ofList ('\x22' :: s.toList.flatMap escapeChar ++ ['\x22'])

mutual

/-- The text of a value. -/
def text : Json → String
  | .null => "null"
  | .bool b => if b then "true" else "false"
  | .num n => n.text
  | .str s => stringText s
  | .arr items => "[" ++ ",".intercalate (itemTexts items) ++ "]"
  | .obj members => "\x7b" ++ ",".intercalate (memberTexts members) ++ "\x7d"

/-- The texts of the items of an array. -/
def itemTexts : List Json → List String
  | [] => []
  | item :: rest => item.text :: itemTexts rest

/-- The texts of the members of an object. -/
def memberTexts : List (String × Json) → List String
  | [] => []
  | (key, value) :: rest => (stringText key ++ ":" ++ value.text) :: memberTexts rest

end

end Json

end QuerySql
