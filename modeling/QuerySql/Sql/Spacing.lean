import QuerySql.Sql.Marker
import QuerySql.Text.Blank

/-!
# Spacing of a statement

Runs of blanks become one space, and the ends of the text have none. Quoted literals and marked
literals are copied as they are, if they end; a quote or marker that nothing closes is a character
like any other.

* `normalizeSpacing` does this for a whole text.
-/

namespace QuerySql.Sql

/-- How many characters at the head of a text are copied together: a whole marked literal, a whole
quoted one, or one character. -/
def verbatimLength (cs : List Char) : Nat :=
  if openMarker.isPrefixOf cs then ((markedHead? cs).map markedLength).getD 1
  else
    match cs with
    | '\x27' :: rest => ((Text.before? ['\x27'] rest).map (·.length + 2)).getD 1
    | _ => 1

/-- Respaces the text after copying its first `verbatim` characters. A space is due if blanks were
passed over (`gap`) and something was written before them (`started`). -/
def respace (gap started : Bool) : Nat → List Char → List Char
  | _, [] => []
  | verbatim + 1, c :: cs => c :: respace false true verbatim cs
  | 0, c :: cs =>
    if Text.isBlank c then respace true started 0 cs
    else
      let rest := c :: respace false true (verbatimLength (c :: cs) - 1) cs
      if gap && started then ' ' :: rest else rest

/-- The text with single spaces between its words and none at its ends. -/
def normalizeSpacing (sql : String) : String := String.ofList (respace false false 0 sql.toList)

end QuerySql.Sql
