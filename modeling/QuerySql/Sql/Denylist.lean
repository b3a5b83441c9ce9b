import QuerySql.Text.Blank
import QuerySql.Text.WordChar

/-!
# The denylist

What ordinary statements do not contain and injected ones tend to: statement ends, comments,
backslash escapes, a few keywords, and the null character. Letters are matched in either case, and
the long s as an s.

* `denied?` is the first forbidden piece of a text.
-/

namespace QuerySql.Sql

/-- The letter in lower case, the long s as an s. -/
def foldCase (c : Char) : Char := if c = 'ſ' then 's' else c.toLower

/-- What follows the given word, which is in lower case, together with the word as it stands. -/
def word? : List Char → List Char → Option (List Char × List Char)
  | [], cs => some ([], cs)
  | _ :: _, [] => none
  | w :: ws, c :: cs =>
    if foldCase c = w then (word? ws cs).map fun (found, rest) => (c :: found, rest) else none

/-- The two words with blanks between them, the second at the end of a word. -/
def wordPair? (first second cs : List Char) : Option (List Char) := do
  let (found, rest) ← word? first cs
  let blanks := rest.takeWhile Text.isBlank
  if blanks.isEmpty then none
  else
    let (found', rest) ← word? second (rest.dropWhile Text.isBlank)
    if Text.atWordBoundary found'.getLast? rest.head? then some (found ++ blanks ++ found')
    else none

/-- The word and an opening parenthesis, possibly with blanks between them. -/
def wordCall? (word cs : List Char) : Option (List Char) := do
  let (found, rest) ← word? word cs
  match rest.dropWhile Text.isBlank with
  | '(' :: _ => some (found ++ rest.takeWhile Text.isBlank ++ ['('])
  | _ => none

/-- A digit of a hexadecimal number, in either case. -/
def isHexDigit (c : Char) : Bool := c.isDigit || ('a' ≤ c.toLower && c.toLower ≤ 'f')

/-- A backslash escape: a given number of hexadecimal digits after `x` or `u`, or one of a few
characters. -/
def escape? (cs : List Char) : Option (List Char) :=
  match cs with
  | '\\' :: c :: rest =>
    let digits (n : Nat) : Option (List Char) :=
      if (rest.take n).length = n && (rest.take n).all isHexDigit then
        some ('\\' :: c :: rest.take n)
      else none
    if foldCase c = 'x' then digits 2
    else if foldCase c = 'u' then digits 4
    else if ['0', 'b', 'n', 'r', 't', 'z', '\x27', '\x22', '\\'].contains (foldCase c) then
      some ['\\', c]
    else none
  | _ => none

/-- A forbidden keyword at the head of a text that starts a word. -/
def keyword? (cs : List Char) : Option (List Char) :=
  (wordPair? "drop".toList "table".toList cs).or <|
    (wordPair? "insert".toList "into".toList cs).or <|
      (wordCall? "if".toList cs).or (wordCall? "sleep".toList cs)

/-- The forbidden piece at the head of a text, which stands after `before`. -/
def deniedHead? (before : Option Char) (cs : List Char) : Option (List Char) :=
  match cs with
  | ';' :: _ => some [';']
  | '-' :: '-' :: _ => some ['-', '-']
  | '/' :: '*' :: _ => some ['/', '*']
  | '*' :: '/' :: _ => some ['*', '/']
  | '@' :: _ => (word? "@@version".toList cs).map (·.1)
  | '\\' :: _ => escape? cs
  | '\x00' :: _ => some ['\x00']
  | _ => if Text.atWordBoundary before cs.head? then keyword? cs else none

/-- The first forbidden piece of a text that stands after `before`. -/
def deniedFrom? (before : Option Char) : List Char → Option (List Char)
  | [] => none
  | c :: cs => (deniedHead? before (c :: cs)).or (deniedFrom? (some c) cs)

/-- The first forbidden piece of a text. -/
def denied? (sql : String) : Option String := (deniedFrom? none sql.toList).map String.ofList

end QuerySql.Sql
