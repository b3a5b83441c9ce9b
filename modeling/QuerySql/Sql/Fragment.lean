import QuerySql.Text.Blank
import QuerySql.Text.Search
import QuerySql.Text.Uppercase

/-!
# Fragments of SQL

Pieces of SQL text that are put together into a statement. A blank fragment says nothing and is
left out wherever fragments are joined.

* `joinFragments` joins fragments, `parenthesized` encloses one.
* `quoteLiteral` is an SQL string literal, `callText` a function call.
-/

namespace QuerySql.Sql

/-- The fragments that are not blank, with a separator between them. -/
def joinFragments (separator : String) (fragments : List String) : String :=
  separator.intercalate (fragments.filter fun f => !Text.isBlankText f)

/-- The fragment between parentheses. -/
def parenthesized (fragment : String) : String := "(" ++ fragment ++ ")"

/-- The text between apostrophes, its own apostrophes doubled. -/
def quoteLiteral (s : String) : String :=
  String.ofList ('\x27' :: Text.double '\x27' s.toList ++ ['\x27'])

/-- A call of a function, whose name is written in upper case. -/
def callText (name arguments : String) : String := Text.uppercase name ++ parenthesized arguments

end QuerySql.Sql
