import QuerySql.Sql.BindValue

/-!
# Marked literals

While a statement is put together, every literal that is to be bound as a parameter stands between
two markers. Once the whole statement is there, subqueries and members of a union included, the
literals are either written into the text or taken out of it, each leaving a placeholder behind.

* `mark` puts a literal between markers, `unmark` leaves all markers out.
* `segments` tells marked literals from other characters; `Statement.ofMarked` takes them out.
-/

namespace QuerySql

namespace Sql

/-- Stands before a marked literal. -/
def openMarker : List Char := ['\x02', 'j', 'q', 'l', ':']

/-- Stands after a marked literal. -/
def closeMarker : List Char := [':', 'j', 'q', 'l', '\x03']

/-- The literal between markers. -/
def mark (lexical : String) : String :=
  String.ofList openMarker ++ lexical ++ String.ofList closeMarker

/-- The text without its markers: first those before a literal are left out, then those after
one. -/
def unmark (sql : String) : String :=
  String.ofList (Text.without closeMarker (Text.without openMarker sql.toList))

/-- The literal at the head of a text that starts with a marker and has a closing one. -/
def markedHead? (cs : List Char) : Option (List Char) :=
  if openMarker.isPrefixOf cs then Text.before? closeMarker (cs.drop openMarker.length) else none

/-- The length of a marked literal with its markers. -/
def markedLength (literal : List Char) : Nat :=
  openMarker.length + literal.length + closeMarker.length

/-- A part of a marked text. -/
inductive Segment where
  | plain (c : Char)
  | literal (content : List Char)
  deriving DecidableEq

/-- The parts of the text after its first `skip` characters. -/
def segmentsFrom : Nat → List Char → List Segment
  | _, [] => []
  | skip + 1, _ :: cs => segmentsFrom skip cs
  | 0, c :: cs =>
    match markedHead? (c :: cs) with
    | some literal => .literal literal :: segmentsFrom (markedLength literal - 1) cs
    | none => .plain c :: segmentsFrom 0 cs

/-- The marked literals and the other characters of a text, from the left. -/
def segments (sql : String) : List Segment := segmentsFrom 0 sql.toList

/-- A placeholder for a literal, any other character as it is. -/
def Segment.placeheld : Segment → Char
  | .plain c => c
  | .literal _ => '?'

/-- The value of a literal. -/
def Segment.bindValue? : Segment → Option BindValue
  | .plain _ => none
  | .literal content => some (.ofLexical (String.ofList content))

end Sql

/-- SQL text with placeholders, and the values bound to them in order. -/
structure Statement where
  sql : String
  params : List BindValue
  deriving DecidableEq

/-- Takes the marked literals out of a text. -/
def Statement.ofMarked (sql : String) : Statement :=
  let parts := Sql.segments sql
  ⟨String.ofList (parts.map Sql.Segment.placeheld), parts.filterMap Sql.Segment.bindValue?⟩

/-- The statement as a JSON object. -/
def Statement.toJson (s : Statement) : Json :=
  .obj [("sql", .str s.sql), ("params", .arr (s.params.map BindValue.toJson))]

end QuerySql
