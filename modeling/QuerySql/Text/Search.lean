/-!
# Finding and leaving out pieces of text

Text is searched from the left, character by character.

* `before?` is what precedes the first occurrence of a pattern.
* `without` leaves out every occurrence of a pattern.
* `undouble` writes a doubled character once.
-/

namespace QuerySql.Text

/-- What precedes the first occurrence of `pat`, if there is one. -/
def before? (pat : List Char) : List Char → Option (List Char)
  | [] => if pat.isEmpty then some [] else none
  | c :: cs => if pat.isPrefixOf (c :: cs) then some [] else (before? pat cs).map (c :: ·)

/-- Leaves out the occurrences of `pat`, leftmost first and without overlap, after passing over
the first `skip` characters. -/
def withoutFrom (pat : List Char) : Nat → List Char → List Char
  | _, [] => []
  | skip + 1, _ :: cs => withoutFrom pat skip cs
  | 0, c :: cs =>
    if pat.isPrefixOf (c :: cs) then withoutFrom pat (pat.length - 1) cs
    else c :: withoutFrom pat 0 cs

/-- The text without the occurrences of `pat`. -/
def without (pat cs : List Char) : List Char := withoutFrom pat 0 cs

/-- Writes every character `d` twice. -/
def double (d : Char) (cs : List Char) : List Char :=
  cs.flatMap fun c => if c = d then [d, d] else [c]

/-- Writes every pair of characters `d` once, pairing them from the left. -/
def undouble (d : Char) : List Char → List Char
  | [] => []
  | [c] => [c]
  | c :: c' :: cs =>
    if c = d ∧ c' = d then d :: undouble d cs else c :: undouble d (c' :: cs)

end QuerySql.Text
