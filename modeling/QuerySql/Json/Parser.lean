import QuerySql.Json.NumberReader

/-!
# Reading JSON

Strict JSON: no comments, no trailing commas, no byte order mark; surrogate escapes come in pairs,
strings hold no raw control characters, and arrays and objects nest less than 128 deep.

A value can also be read only to be passed over. Its shape must still be right, but its numbers may
have any size, its surrogate escapes may stand alone and it may nest without limit.

* `Json.parse?` reads a whole text, `Json.value?` a value at the head of a text.
-/

namespace QuerySql.Json

/-- The nesting of arrays and objects that is refused. -/
def nestingLimit : Nat := 128

/-- The four characters that may stand between tokens. -/
def isSpace (c : Char) : Bool := c = ' ' || c = '\t' || c = '\n' || c = '\r'

/-- The text from its next token on. -/
def skipSpaces (cs : List Char) : List Char := cs.dropWhile isSpace

/-- The value of a hexadecimal digit. -/
def hexDigit? (c : Char) : Option Nat :=
  if '0' ≤ c ∧ c ≤ '9' then some (c.toNat - '0'.toNat)
  else if 'a' ≤ c ∧ c ≤ 'f' then some (c.toNat - 'a'.toNat + 10)
  else if 'A' ≤ c ∧ c ≤ 'F' then some (c.toNat - 'A'.toNat + 10)
  else none

/-- The value of four hexadecimal digits. -/
def hexUnit? (a b c d : Char) : Option Nat := do
  return ((← hexDigit? a) * 16 + (← hexDigit? b)) * 256 + (← hexDigit? c) * 16 + (← hexDigit? d)

/-- The character that a one-letter escape stands for. -/
def shortEscape? (c : Char) : Option Char :=
  match c with
  | '\x22' => some '\x22'
  | '\\' => some '\\'
  | '/' => some '/'
  | 'b' => some '\x08'
  | 'f' => some '\x0c'
  | 'n' => some '\n'
  | 'r' => some '\r'
  | 't' => some '\t'
  | _ => none

/-- The unit is the first or the second half of a surrogate pair. -/
def isSurrogate (unit : Nat) : Bool := 0xD800 ≤ unit && unit ≤ 0xDFFF

/-- The character of a surrogate pair. -/
def surrogatePair? (high low : Nat) : Option Char :=
  if 0xD800 ≤ high ∧ high < 0xDC00 ∧ 0xDC00 ≤ low ∧ low ≤ 0xDFFF then
    some (Char.ofNat (0x10000 + (high - 0xD800) * 0x400 + (low - 0xDC00)))
  else none

/-- The rest of a string after its opening quote, and the text after it. If the string is not
`kept`, a surrogate may stand alone. -/
def scanString? (kept : Bool) : List Char → Option (List Char × List Char)
  | [] => none
  | '\x22' :: rest => some ([], rest)
  | '\\' :: 'u' :: a :: b :: c :: d :: rest =>
    match hexUnit? a b c d with
    | none => none
    | some unit =>
      if !isSurrogate unit then
        (scanString? kept rest).map fun (s, r) => (Char.ofNat unit :: s, r)
      else if !kept then scanString? kept rest
      else
        match rest with
        | '\\' :: 'u' :: a :: b :: c :: d :: rest =>
          match (hexUnit? a b c d).bind (surrogatePair? unit) with
          | none => none
          | some ch => (scanString? kept rest).map fun (s, r) => (ch :: s, r)
        | _ => none
  | '\\' :: c :: rest =>
    match shortEscape? c with
    | none => none
    | some ch => (scanString? kept rest).map fun (s, r) => (ch :: s, r)
  | c :: rest =>
    if c.toNat < 32 ∨ c = '\\' then none
    else (scanString? kept rest).map fun (s, r) => (c :: s, r)

/-- The text after a given word. -/
def afterWord? (word cs : List Char) : Option (List Char) :=
  if word.isPrefixOf cs then some (cs.drop word.length) else none

/-- A number, string or word at the head of the text. -/
def scalar? (kept : Bool) (cs : List Char) : Option (Json × List Char) :=
  match cs with
  | 'n' :: rest => (afterWord? ['u', 'l', 'l'] rest).map (.null, ·)
  | 't' :: rest => (afterWord? ['r', 'u', 'e'] rest).map (.bool true, ·)
  | 'f' :: rest => (afterWord? ['a', 'l', 's', 'e'] rest).map (.bool false, ·)
  | '\x22' :: rest => (scanString? kept rest).map fun (s, r) => (.str (String.ofList s), r)
  | _ => do
    let (t, rest) ← NumberText.scan? cs
    match t.value? with
    | some n => return (.num n, rest)
    | none => if kept then none else return (.num (.integer 0), rest)

mutual

/-- A value after `fuel`-bounded work, inside `depth` arrays and objects. -/
def valueAt? (kept : Bool) : Nat → Nat → List Char → Option (Json × List Char)
  | 0, _, _ => none
  | fuel + 1, depth, cs =>
    match skipSpaces cs with
    | '[' :: rest =>
      if kept && nestingLimit ≤ depth + 1 then none
      else
        match skipSpaces rest with
        | ']' :: rest => some (.arr [], rest)
        | rest => (itemsAt? kept fuel (depth + 1) rest).map fun (items, r) => (.arr items, r)
    | '\x7b' :: rest =>
      if kept && nestingLimit ≤ depth + 1 then none
      else
        match skipSpaces rest with
        | '\x7d' :: rest => some (.obj [], rest)
        | rest => (membersAt? kept fuel (depth + 1) rest).map fun (ms, r) => (ofMembers ms, r)
    | cs => scalar? kept cs

/-- The items of an array that has one, and its closing bracket. -/
def itemsAt? (kept : Bool) : Nat → Nat → List Char → Option (List Json × List Char)
  | 0, _, _ => none
  | fuel + 1, depth, cs =>
    match valueAt? kept fuel depth cs with
    | none => none
    | some (item, rest) =>
      match skipSpaces rest with
      | ',' :: rest => (itemsAt? kept fuel depth rest).map fun (items, r) => (item :: items, r)
      | ']' :: rest => some ([item], rest)
      | _ => none

/-- The members of an object that has one, and its closing brace. -/
def membersAt? (kept : Bool) : Nat → Nat → List Char → Option (List (String × Json) × List Char)
  | 0, _, _ => none
  | fuel + 1, depth, cs =>
    match skipSpaces cs with
    | '\x22' :: rest =>
      match scanString? kept rest with
      | none => none
      | some (key, rest) =>
        match skipSpaces rest with
        | ':' :: rest =>
          match valueAt? kept fuel depth rest with
          | none => none
          | some (value, rest) =>
            match skipSpaces rest with
            | ',' :: rest =>
              (membersAt? kept fuel depth rest).map fun (ms, r) =>
                ((String.ofList key, value) :: ms, r)
            | '\x7d' :: rest => some ([(String.ofList key, value)], rest)
            | _ => none
        | _ => none
    | _ => none

end

/-- A value at the head of the text, and the text after it. Every step of the work takes a
character or is followed by one that does. -/
def value? (kept : Bool) (cs : List Char) : Option (Json × List Char) :=
  valueAt? kept (2 * cs.length + 2) 0 cs

/-- The value that a whole text stands for. -/
def parse? (text : String) : Option Json := do
  let (value, rest) ← value? true text.toList
  if (skipSpaces rest).isEmpty then some value else none

end QuerySql.Json
