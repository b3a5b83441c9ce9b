import QuerySql.Json.Parser
import QuerySql.Query.Reading

/-!
# Documents

A document is a JSON text that describes one query, or an array of queries that form a union. Two
control characters are reserved for the markers of bound literals: a document that holds one of
them in a string or a key, at any depth, is refused before its shape is looked at.

* `Json.reserved?` is the first string with a reserved character.
* `Query.parse`, `Query.parseUnion` read a document.
-/

namespace QuerySql

/-- The characters that no string of a document may hold. -/
def isReserved (c : Char) : Bool := c = '\x02' || c = '\x03'

/-- The text holds a reserved character. -/
def hasReserved (s : String) : Bool := s.toList.any isReserved

namespace Json

mutual

/-- The first string or key with a reserved character, in document order. -/
def reserved? : Json → Option String
  | .str s => if hasReserved s then some s else none
  | .arr items => itemsReserved? items
  | .obj members => membersReserved? members
  | _ => none

/-- The first such string in the items of an array. -/
def itemsReserved? : List Json → Option String
  | [] => none
  | item :: rest => item.reserved?.or (itemsReserved? rest)

/-- The first such string in the members of an object, a key before its value. -/
def membersReserved? : List (String × Json) → Option String
  | [] => none
  | (key, value) :: rest =>
    if hasReserved key then some key else value.reserved?.or (membersReserved? rest)

end

/-- Refuses a value that holds a reserved character. -/
def checkReserved (j : Json) : Except DecodeError Unit :=
  match j.reserved? with
  | some s => .error (.reservedCharacter s)
  | none => .ok ()

/-- Reads a JSON text. -/
def parse (text : String) : Except DecodeError Json :=
  match parse? text with
  | some j => .ok j
  | none => .error .malformed

/-- The value is an array. -/
def isArray : Json → Bool
  | .arr _ => true
  | _ => false

end Json

/-- Reads a document that describes one query. -/
def Query.parse (text : String) : Except DecodeError Query := do
  let j ← Json.parse text
  j.checkReserved
  (Query.ofJson j).mapError .shape

/-- Reads a document that describes the members of a union. -/
def Query.parseUnion (text : String) : Except DecodeError (List Query) := do
  let j ← Json.parse text
  if !j.isArray then throw .expectedArray
  j.checkReserved
  (Query.listOfJson j).mapError .shape

/-- The text in UTF-8. -/
def decodeUtf8 (bytes : ByteArray) : Except DecodeError String :=
  match String.fromUTF8? bytes with
  | some text => .ok text
  | none => .error .malformed

end QuerySql
