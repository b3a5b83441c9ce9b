import QuerySql.Json.Parser
import QuerySql.Toml.Basic
import QuerySql.Word64

/-!
# Reading TOML

A document is a sequence of lines: headers of tables, and assignments of values to keys, which
belong to the table of the last header. Values are strings of four kinds, numbers, booleans, dates,
arrays and inline tables.

* `Toml.parse?` reads a whole text.
-/

namespace QuerySql.Toml

/-! ## Lines and comments -/

/-- A blank inside a line. -/
def isBlank (c : Char) : Bool := c = ' ' || c = '\t'

/-- The text after the blanks of a line. -/
def skipBlanks (cs : List Char) : List Char := cs.dropWhile isBlank

/-- A character that may stand in a comment or a literal string. -/
def isVisible (c : Char) : Bool := (32 ≤ c.toNat && c.toNat ≠ 127) || c = '\t'

/-- The text after a comment, if there is one. -/
def skipComment (cs : List Char) : List Char :=
  match cs with
  | '#' :: rest => rest.dropWhile isVisible
  | _ => cs

/-- The text after the end of a line. -/
def newline? (cs : List Char) : Option (List Char) :=
  match cs with
  | '\n' :: rest => some rest
  | '\r' :: '\n' :: rest => some rest
  | _ => none

/-- The text after what may follow a header or an assignment on its line. -/
def endOfLine? (cs : List Char) : Option (List Char) :=
  match skipComment (skipBlanks cs) with
  | [] => some []
  | rest => newline? rest

/-- The text after blanks, comments and ends of lines, at most `fuel` lines. -/
def skipLines : Nat → List Char → List Char
  | 0, cs => cs
  | fuel + 1, cs =>
    let rest := skipComment (skipBlanks cs)
    match newline? rest with
    | some next => skipLines fuel next
    | none => rest

/-! ## Strings -/

/-- The character of a code point given in hexadecimal. -/
def codePoint? (digits : List Char) : Option Char := do
  let values ← digits.mapM Json.hexDigit?
  let n := values.foldl (fun n d => 16 * n + d) 0
  if n < 0xD800 ∨ (0xDFFF < n ∧ n ≤ 0x10FFFF) then some (Char.ofNat n) else none

/-- The character that a one-letter escape stands for. -/
def shortEscape? (c : Char) : Option Char := if c = '/' then none else Json.shortEscape? c

/-- Puts a character before a string that was read. -/
def push (c : Char) : Option (List Char × List Char) → Option (List Char × List Char)
  | some (s, rest) => some (c :: s, rest)
  | none => none

/-- The backslash at hand ends its line. -/
def endsLine (cs : List Char) : Bool := (newline? (skipBlanks cs)).isSome

/-- How many quotes of one kind stand at the head of a text. -/
def quoteRun (quote : Char) (cs : List Char) : Nat := (cs.takeWhile (· = quote)).length

/-- The rest of a string with escapes after its opening quotes. A string of several lines ends with
three quotes, before which two more may stand; in it a backslash at the end of a line joins the
next word to the line, which is when blanks are dropped (`joining`). -/
def basicString? (multiline : Bool) (joining : Bool) : List Char → Option (List Char × List Char)
  | [] => none
  | '\\' :: 'U' :: a :: b :: c :: d :: e :: f :: g :: h :: rest =>
    match codePoint? [a, b, c, d, e, f, g, h] with
    | some ch => push ch (basicString? multiline false rest)
    | none => none
  | '\\' :: 'u' :: a :: b :: c :: d :: rest =>
    match codePoint? [a, b, c, d] with
    | some ch => push ch (basicString? multiline false rest)
    | none => none
  | '\\' :: c :: rest =>
    if multiline && endsLine (c :: rest) then basicString? multiline true (c :: rest)
    else
      match shortEscape? c with
      | some ch => push ch (basicString? multiline false rest)
      | none => none
  | c :: rest =>
    if c = '\x22' then
      if !multiline then some ([], rest)
      else
        let run := min (quoteRun '\x22' (c :: rest)) 5
        if 3 ≤ run then some (List.replicate (run - 3) c, (c :: rest).drop run)
        else push c (basicString? multiline false rest)
    else if c = '\n' then
      if !multiline then none
      else if joining then basicString? multiline true rest
      else push c (basicString? multiline false rest)
    else if c = '\r' then
      if multiline && rest.head? = some '\n' then basicString? multiline joining rest else none
    else if joining && isBlank c then basicString? multiline true rest
    else if isVisible c && c ≠ '\\' then push c (basicString? multiline false rest)
    else none

/-- The rest of a string without escapes after its opening quotes. -/
def literalString? (multiline : Bool) : List Char → Option (List Char × List Char)
  | [] => none
  | c :: rest =>
    if c = '\x27' then
      if !multiline then some ([], rest)
      else
        let run := min (quoteRun '\x27' (c :: rest)) 5
        if 3 ≤ run then some (List.replicate (run - 3) c, (c :: rest).drop run)
        else push c (literalString? multiline rest)
    else if c = '\n' then
      if multiline then push c (literalString? multiline rest) else none
    else if c = '\r' then
      if multiline && rest.head? = some '\n' then literalString? multiline rest else none
    else if isVisible c then push c (literalString? multiline rest)
    else none

/-- The text after a first end of line. -/
def skipNewline (cs : List Char) : List Char := (newline? cs).getD cs

/-- A string of any kind at the head of a text. -/
def string? (cs : List Char) : Option (List Char × List Char) :=
  match cs with
  | '\x22' :: '\x22' :: '\x22' :: rest => basicString? true false (skipNewline rest)
  | '\x27' :: '\x27' :: '\x27' :: rest => literalString? true (skipNewline rest)
  | '\x22' :: rest => basicString? false false rest
  | '\x27' :: rest => literalString? false rest
  | _ => none

/-! ## Keys -/

/-- A character of a bare key. -/
def isBareKeyChar (c : Char) : Bool := c.isAlphanum || c = '_' || c = '-'

/-- One part of a key. -/
def keyPart? (cs : List Char) : Option (String × List Char) :=
  match cs with
  | '\x22' :: rest => (basicString? false false rest).map fun (s, r) => (String.ofList s, r)
  | '\x27' :: rest => (literalString? false rest).map fun (s, r) => (String.ofList s, r)
  | _ =>
    let bare := cs.takeWhile isBareKeyChar
    if bare.isEmpty then none else some (String.ofList bare, cs.dropWhile isBareKeyChar)

/-- A key of parts divided by dots, at most the given number of them. -/
def keyAt? : Nat → List Char → Option (List String × List Char)
  | 0, _ => none
  | parts + 1, cs => do
    let (part, rest) ← keyPart? (skipBlanks cs)
    match skipBlanks rest with
    | '.' :: rest => (keyAt? parts rest).map fun (rest, r) => (part :: rest, r)
    | rest => return ([part], rest)

/-- How many parts a key may have, and how deep arrays and inline tables may nest in a value. -/
def maxNesting : Nat := 127

/-- A key at the head of a text, and the text after it and the blanks that follow. -/
def key? (cs : List Char) : Option (List String × List Char) := keyAt? maxNesting cs

/-! ## Numbers and dates -/

/-- Digits of a class with single underscores between them: the digits alone. -/
def digits? (isDigit : Char → Bool) : List Char → Option (List Char)
  | [] => none
  | [c] => if isDigit c then some [c] else none
  | c :: '_' :: rest => if isDigit c then (digits? isDigit rest).map (c :: ·) else none
  | c :: rest => if isDigit c then (digits? isDigit rest).map (c :: ·) else none

/-- The value of digits in a base. -/
def inBase (base : Nat) (ds : List Char) : Nat :=
  ds.foldl (fun n d => base * n + (Json.hexDigit? d).getD 0) 0

/-- A decimal without a leading zero, as a number. -/
def wholeNumber? (cs : List Char) : Option Nat := do
  let ds ← digits? Char.isDigit cs
  if ds.head? = some '0' ∧ 1 < ds.length then none else some (inBase 10 ds)

/-- A number in another base than ten, after its mark. -/
def basedNumber? (mark : Char) (cs : List Char) : Option Nat :=
  match mark with
  | 'x' => (digits? (fun c => (Json.hexDigit? c).isSome) cs).map (inBase 16)
  | 'o' => (digits? (fun c => '0' ≤ c && c ≤ '7') cs).map (inBase 8)
  | 'b' => (digits? (fun c => c = '0' || c = '1') cs).map (inBase 2)
  | _ => none

/-- An integer of a signed 64-bit word. -/
def integer? (cs : List Char) : Option Int := do
  let (negative, n) ← match cs with
    | '0' :: mark :: rest => (basedNumber? mark rest).map (false, ·)
    | _ =>
      let (negative, rest) := NumberText.scanSign cs
      (wholeNumber? rest).map (negative, ·)
  Word64.signed? negative n

/-- An exponent. -/
def exponent? (cs : List Char) : Option Int :=
  match cs with
  | 'e' :: rest | 'E' :: rest =>
    let (negative, rest) := NumberText.scanSign rest
    (digits? Char.isDigit rest).map fun ds =>
      if negative then -(inBase 10 ds : Int) else inBase 10 ds
  | _ => none

/-- The digits of a fraction and the exponent after it, or an exponent alone. -/
def fractionAndExponent? (cs : List Char) : Option (List Char × Int) :=
  match cs with
  | '.' :: rest => do
    let isMark (c : Char) : Bool := c = 'e' || c = 'E'
    let fraction ← digits? Char.isDigit (rest.takeWhile (!isMark ·))
    let tail := rest.dropWhile (!isMark ·)
    if tail.isEmpty then some (fraction, 0) else (exponent? tail).map (fraction, ·)
  | _ => (exponent? cs).map ([], ·)

/-- The binary number nearest to a decimal with a fraction or an exponent. -/
def decimal? (cs : List Char) : Option Binary64 := do
  let (negative, rest) := NumberText.scanSign cs
  let isWhole (c : Char) : Bool := c.isDigit || c = '_'
  let whole ← wholeNumber? (rest.takeWhile isWhole)
  let (fraction, exponent) ← fractionAndExponent? (rest.dropWhile isWhole)
  let coefficient := whole * Nat.pow 10 fraction.length + inBase 10 fraction
  some (.ofDecimal negative coefficient (exponent - fraction.length))

/-- The text is an infinity or no number by name, or a decimal with a fraction or an exponent. No
decimal is so large that it would be read as infinity. -/
def isFloat (cs : List Char) : Bool :=
  let (_, rest) := NumberText.scanSign cs
  rest = "inf".toList || rest = "nan".toList || (decimal? cs).any (· ≠ .infinite false)

/-- Two digits that stand for a number in a range. -/
def isPair (low high : Nat) (a b : Char) : Bool :=
  a.isDigit && b.isDigit && low ≤ inBase 10 [a, b] && inBase 10 [a, b] ≤ high

/-- The text after a date. Every month may have a day 31. -/
def afterDate? (cs : List Char) : Option (List Char) :=
  match cs with
  | y₁ :: y₂ :: y₃ :: y₄ :: '-' :: m₁ :: m₂ :: '-' :: d₁ :: d₂ :: rest =>
    if [y₁, y₂, y₃, y₄].all Char.isDigit && isPair 1 12 m₁ m₂ && isPair 1 31 d₁ d₂ then some rest
    else none
  | _ => none

/-- The text after a time of day. -/
def afterTime? (cs : List Char) : Option (List Char) :=
  match cs with
  | h₁ :: h₂ :: ':' :: m₁ :: m₂ :: ':' :: s₁ :: s₂ :: rest =>
    if isPair 0 23 h₁ h₂ && isPair 0 59 m₁ m₂ && isPair 0 60 s₁ s₂ then
      match rest with
      | '.' :: rest =>
        if (rest.takeWhile Char.isDigit).isEmpty then none else some (rest.dropWhile Char.isDigit)
      | _ => some rest
    else none
  | _ => none

/-- The text is the offset of a time zone, or empty. -/
def isOffset (cs : List Char) : Bool :=
  match cs with
  | [] | ['Z'] | ['z'] => true
  | [sign, h₁, h₂, ':', m₁, m₂] =>
    (sign = '+' || sign = '-') && isPair 0 23 h₁ h₂ && isPair 0 59 m₁ m₂
  | _ => false

/-- The text is a date, a time of day, or both with or without an offset. -/
def isDate (cs : List Char) : Bool :=
  match afterDate? cs with
  | none => afterTime? cs == some []
  | some [] => true
  | some (divider :: rest) =>
    (divider = 'T' || divider = 't' || divider = ' ') && (afterTime? rest).any isOffset

/-- A character of a number, a date or a word. -/
def isWordChar (c : Char) : Bool :=
  c.isAlphanum || c = '+' || c = '-' || c = '_' || c = '.' || c = ':'

/-- The characters of a number, a date or a word. A date and a time may have a space between
them. -/
def word (cs : List Char) : List Char :=
  let first := cs.takeWhile isWordChar
  match cs.drop first.length with
  | ' ' :: c :: rest =>
    if afterDate? first == some [] && c.isDigit then
      first ++ ' ' :: (c :: rest).takeWhile isWordChar
    else first
  | _ => first

/-- A value written as one word. -/
def wordValue? (cs : List Char) : Option Toml :=
  if cs = "true".toList then some (.boolean true)
  else if cs = "false".toList then some (.boolean false)
  else
    match integer? cs with
    | some n => some (.integer n)
    | none =>
      if isFloat cs then some .float
      else if isDate cs then some .date
      else none

/-! ## Values -/

mutual

/-- A value at the head of a text, in which arrays and inline tables nest at most `levels` deep,
and the text after it. -/
def valueAt? : Nat → Nat → List Char → Option (Toml × List Char)
  | 0, _, _ => none
  | fuel + 1, levels, cs =>
    match cs, levels with
    | '[' :: _, 0 | '\x7b' :: _, 0 => none
    | '[' :: rest, levels + 1 =>
      (itemsAt? fuel levels rest).map fun (items, r) => (.array items, r)
    | '\x7b' :: rest, levels + 1 =>
      match skipBlanks rest with
      | '\x7d' :: rest => some (.table .inline [], rest)
      | rest =>
        (entriesAt? fuel levels [] rest).map fun (entries, r) => (.table .inline entries, r)
    | '\x22' :: _, _ | '\x27' :: _, _ =>
      (string? cs).map fun (s, r) => (.string (String.ofList s), r)
    | _, _ => (wordValue? (word cs)).map fun v => (v, cs.drop (word cs).length)

/-- The items of an array up to its closing bracket. A comma may follow the last. -/
def itemsAt? : Nat → Nat → List Char → Option (List Toml × List Char)
  | 0, _, _ => none
  | fuel + 1, levels, cs =>
    match skipLines cs.length cs with
    | ']' :: rest => some ([], rest)
    | cs =>
      match valueAt? fuel levels cs with
      | none => none
      | some (item, rest) =>
        match skipLines rest.length rest with
        | ']' :: rest => some ([item], rest)
        | ',' :: rest => (itemsAt? fuel levels rest).map fun (items, r) => (item :: items, r)
        | _ => none

/-- The entries of an inline table up to its closing brace, after those in `entries`. -/
def entriesAt? : Nat → Nat → Entries → List Char → Option (Entries × List Char)
  | 0, _, _, _ => none
  | fuel + 1, levels, entries, cs =>
    match key? cs with
    | some (key, '=' :: rest) =>
      match valueAt? fuel levels (skipBlanks rest) with
      | none => none
      | some (value, rest) =>
        match assignHere value true key entries, skipBlanks rest with
        | some entries, '\x7d' :: rest => some (entries, rest)
        | some entries, ',' :: rest => entriesAt? fuel levels entries rest
        | _, _ => none
    | _ => none

end

/-! ## Documents -/

/-- A line of a document. -/
inductive Line where
  | header (path : List String)
  | elementHeader (path : List String)
  | assignment (key : List String) (value : Toml)

/-- A line that is not blank, and the text after it. -/
def line? (cs : List Char) : Option (Line × List Char) := do
  match cs with
  | '[' :: '[' :: rest =>
    match ← key? rest with
    | (path, ']' :: ']' :: rest) => return (.elementHeader path, ← endOfLine? rest)
    | _ => none
  | '[' :: rest =>
    match ← key? rest with
    | (path, ']' :: rest) => return (.header path, ← endOfLine? rest)
    | _ => none
  | _ =>
    match ← key? cs with
    | (key, '=' :: rest) =>
      let (value, rest) ← valueAt? (2 * rest.length + 2) maxNesting (skipBlanks rest)
      return (.assignment key value, ← endOfLine? rest)
    | _ => none

/-- The lines of a document, at most `fuel` of them. -/
def lines? : Nat → List Char → Option (List Line)
  | 0, _ => none
  | fuel + 1, cs =>
    match skipLines cs.length cs with
    | [] => some []
    | cs =>
      match line? cs with
      | some (line, rest) => (lines? fuel rest).map (line :: ·)
      | none => none

/-- The table that lines add up to, after those that led to the table at `current` in `root`. -/
def assemble (current : List String) (root : Entries) : List Line → Option Entries
  | [] => some root
  | .header path :: rest => do assemble path (← define path root) rest
  | .elementHeader path :: rest => do assemble path (← defineElement path root) rest
  | .assignment key value :: rest => do assemble current (← assign current key value root) rest

/-- The table that a text describes. A byte order mark may stand before it. -/
def parse? (text : String) : Option Entries := do
  let cs := match text.toList with
    | '\uFEFF' :: rest => rest
    | cs => cs
  assemble [] [] (← lines? (cs.length + 1) cs)

end QuerySql.Toml
