import QuerySql.Json.NumberReader
import QuerySql.Text.Search
import QuerySql.Word64

/-!
# Bound values

The value bound to a placeholder, recovered from the form that the literal has in SQL text. A
quoted literal is a string. Anything else is a boolean, an integer of 64 bits, another number, or
failing these a string.

* `BindValue.ofLexical` recovers the value, `BindValue.toJson` passes it on.
-/

namespace QuerySql

/-- A value bound to one placeholder. -/
inductive BindValue where
  | boolean (b : Bool)
  /-- An integer of a signed 64-bit word. -/
  | integer (n : Int)
  /-- An integer of an unsigned 64-bit word, too large for a signed one. -/
  | unsigned (n : Nat)
  | float (x : Binary64)
  | string (s : String)
  deriving DecidableEq

namespace BindValue

/-- The content of a text that starts and ends with an apostrophe, doubled apostrophes written
once. -/
def unquote? (cs : List Char) : Option (List Char) :=
  match cs with
  | '\x27' :: rest =>
    if rest.getLast? = some '\x27' then some (Text.undouble '\x27' rest.dropLast) else none
  | _ => none

/-- The text is the word in any mixture of cases; the word is in lower case. -/
def isWord (word cs : List Char) : Bool := cs.map Char.toLower == word

/-- A row of digits, at least one. -/
def digits? (cs : List Char) : Option Nat :=
  if !cs.isEmpty && cs.all Char.isDigit then some (digitsValue cs) else none

/-- A signed integer, if it fits a signed 64-bit word. -/
def signed? (cs : List Char) : Option Int := do
  let (negative, ds) := NumberText.scanSign cs
  Word64.signed? negative (← digits? ds)

/-- A natural number, if it fits an unsigned 64-bit word. A plus may stand before it. -/
def unsigned? (cs : List Char) : Option Nat := do
  let ds := match cs with
    | '+' :: rest => rest
    | _ => cs
  Word64.unsigned? (← digits? ds)

/-- The text has a digit, and otherwise only signs, points and exponent marks. -/
def isNumeric (cs : List Char) : Bool :=
  cs.any Char.isDigit &&
    cs.all fun c => c.isDigit || c = '-' || c = '+' || c = '.' || c = 'e' || c = 'E'

/-- An exponent of at least one digit, or none at all, up to the end of the text. -/
def exponent? (cs : List Char) : Option Int :=
  match cs with
  | [] => some 0
  | 'e' :: rest | 'E' :: rest => do
    let (negative, ds) := NumberText.scanSign rest
    let n ← digits? ds
    some (if negative then -n else n)
  | _ => none

/-- The binary number nearest to a decimal: digits with a point before, among or after them, and
possibly an exponent. -/
def float? (cs : List Char) : Option Binary64 := do
  let (negative, rest) := NumberText.scanSign cs
  let whole := rest.takeWhile Char.isDigit
  let rest := rest.dropWhile Char.isDigit
  let (fraction, rest) := match rest with
    | '.' :: rest => (rest.takeWhile Char.isDigit, rest.dropWhile Char.isDigit)
    | _ => ([], rest)
  let exponent ← exponent? rest
  if whole.isEmpty && fraction.isEmpty then none
  else some (.ofDecimal negative (digitsValue (whole ++ fraction)) (exponent - fraction.length))

/-- A number that is no integer of 64 bits. -/
def otherNumber? (cs : List Char) : Option Binary64 := if isNumeric cs then float? cs else none

/-- The value of a literal in its SQL form. -/
def ofLexical (lexical : String) : BindValue :=
  let cs := lexical.toList
  match unquote? cs with
  | some content => .string (String.ofList content)
  | none =>
    if isWord "true".toList cs then .boolean true
    else if isWord "false".toList cs then .boolean false
    else
      match signed? cs, unsigned? cs, otherNumber? cs with
      | some n, _, _ => .integer n
      | none, some n, _ => .unsigned n
      | none, none, some x => .float x
      | none, none, none => .string lexical

/-- The value in JSON; an infinite number is written as null. -/
def toJson : BindValue → Json
  | .boolean b => .bool b
  | .integer n => .num (.integer n)
  | .unsigned n => .num (.integer n)
  | .float x => if x.isInfinite then .null else .num (.float x)
  | .string s => .str s

end BindValue

end QuerySql
