import QuerySql.Json.Printer
import QuerySql.Text.Escape

/-!
# What can be wrong with a descriptor

A document fails to be a descriptor for one of four causes: it is not JSON, it holds a reserved
character, it is not an array where one is needed, or it is JSON of the wrong shape.

* `ShapeError.message`, `DecodeError.message` are the texts.
-/

namespace QuerySql

/-- What a place in a document should have held. -/
inductive Expected where
  | string
  | boolean
  | sequence
  | map
  | record (name : String)
  deriving DecidableEq, Repr

/-- The words for it. -/
def Expected.text : Expected → String
  | .string => "a string"
  | .boolean => "a boolean"
  | .sequence => "a sequence"
  | .map => "a map"
  | .record name => "struct " ++ name

/-- A value of the wrong kind, as named in a message. -/
def Json.kindText : Json → String
  | .null => "null"
  | .bool b => "boolean `" ++ (if b then "true" else "false") ++ "`"
  | .num (.integer n) => "integer `" ++ integerText n ++ "`"
  | .num (.float x) => "floating point `" ++ x.text ++ "`"
  | .str s => "string " ++ Text.quoted s
  | .arr _ => "sequence"
  | .obj _ => "map"

/-- JSON of the wrong shape. -/
inductive ShapeError where
  | invalidType (found : Json) (expected : Expected)
  /-- An array that stands for a record ends before its field number `length`. -/
  | tooShort (length : Nat) (record : String) (fields : Nat)
  /-- An array that stands for a record has items left. -/
  | tooLong (length : Nat)
  | missingField (name : String)
  | selectionKind (found : Json)
  | clauseKind (found : Json)
  | callKind (found : Json)
  | callName
  | boundKind (found : Json)
  | unknownOperand (spelling : String)
  | unknownDirection (spelling : String)

/-- The text of the error. -/
def ShapeError.message : ShapeError → String
  | .invalidType found expected =>
    "invalid type: " ++ found.kindText ++ ", expected " ++ expected.text
  | .tooShort length record fields =>
    "invalid length " ++ Nat.repr length ++ ", expected struct " ++ record ++ " with " ++
      Nat.repr fields ++ (if fields = 1 then " element" else " elements")
  | .tooLong length =>
    "invalid length " ++ Nat.repr length ++ ", expected fewer elements in array"
  | .missingField name => "missing field `" ++ name ++ "`"
  | .selectionKind found =>
    "a selected field must be a column name or an object, found `" ++ found.text ++ "`"
  | .clauseKind found =>
    "a clause must be a column name or a function call, found `" ++ found.text ++ "`"
  | .callKind found => "a function call must be an object, found `" ++ found.text ++ "`"
  | .callName => "a function call requires a `name`"
  | .boundKind found =>
    "a limit or offset must be a non-negative integer, found `" ++ found.text ++ "`"
  | .unknownOperand s => "unknown operand `" ++ s ++ "`, expected `AND` or `OR`"
  | .unknownDirection s => "unknown sort direction `" ++ s ++ "`"

/-- A text that is no descriptor. -/
inductive DecodeError where
  /-- The text is not JSON. -/
  | malformed
  | shape (error : ShapeError)
  | expectedArray
  /-- The string holds a reserved character. -/
  | reservedCharacter (text : String)

/-- The text of the error. -/
def DecodeError.message : DecodeError → String
  | .malformed => "query descriptor is not valid JSON: malformed text"
  | .shape e => "query descriptor is not valid JSON: " ++ e.message
  | .expectedArray => "expected a JSON array of query descriptors"
  | .reservedCharacter s =>
    "query descriptor contains a reserved control character in \"" ++ Text.escaped s ++ "\""

end QuerySql
