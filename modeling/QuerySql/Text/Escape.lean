import QuerySql.Text.GraphemeExtend
import QuerySql.Text.Unprintable

/-!
# Escaped text

Text as it is shown inside a message: whatever a reader could not see is written as an escape. A
character without a short escape becomes its code point in braces, in lower-case hexadecimal.

* `quoted` puts the text between double quotes and escapes every combining mark.
* `escaped` has no quotes around it, escapes apostrophes, and a combining mark only at the head,
  where it would combine with what stands before the text.
-/

namespace QuerySql.Text

/-- The code point in braces: `\u` and the number in lower-case hexadecimal. -/
def codePointEscape (c : Char) : List Char :=
  ['\\', 'u', '\x7b'] ++ Nat.toDigits 16 c.toNat ++ ['\x7d']

/-- One character as shown, with or without escapes for an apostrophe and for a character that
combines with the one before. -/
def escapeChar (apostrophe extender : Bool) (c : Char) : List Char :=
  if c = '\x00' then ['\\', '0']
  else if c = '\t' then ['\\', 't']
  else if c = '\r' then ['\\', 'r']
  else if c = '\n' then ['\\', 'n']
  else if c = '\\' ∨ c = '\x22' then ['\\', c]
  else if c = '\x27' then if apostrophe then ['\\', c] else [c]
  else if (extender && isExtender c) || isUnprintable c then codePointEscape c
  else [c]

/-- The text between double quotes. -/
def quoted (s : String) : String :=
  String.ofList ('\x22' :: s.toList.flatMap (escapeChar false true) ++ ['\x22'])

/-- The text with apostrophes escaped, and combining marks only at the head. -/
def escaped (s : String) : String :=
  match s.toList with
  | [] => ""
  | c :: cs => String.ofList (escapeChar true true c ++ cs.flatMap (escapeChar true false))

end QuerySql.Text
