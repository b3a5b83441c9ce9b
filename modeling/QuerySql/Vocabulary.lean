import QuerySql.Text.Blank
import QuerySql.Text.Uppercase

/-!
# Datatypes and operators

The two closed vocabularies of a comparison. A spelling is matched without regard to case and to
the amount of blank space between and around its words.

* `Datatype.parse`, `Operator.parse` look a spelling up; an unknown one is the error.
-/

namespace QuerySql

/-- A spelling outside a vocabulary. -/
inductive VocabularyError where
  | invalidDatatype (spelling : String)
  | invalidOperator (spelling : String)
  deriving DecidableEq, Repr

/-- The text of the error. -/
def VocabularyError.message : VocabularyError → String
  | .invalidDatatype s => "invalid SQL datatype `" ++ s ++ "`"
  | .invalidOperator s => "invalid SQL operator `" ++ s ++ "`"

/-- The words of a spelling in upper case, one space between them. -/
def canonicalSpelling (s : String) : String :=
  " ".intercalate ((Text.words s.toList).map fun w => Text.uppercase (String.ofList w))

/-- How a literal value is written into SQL. -/
inductive Datatype where
  | boolean
  | string
  | number
  | raw
  | function
  | array
  deriving DecidableEq, Repr

namespace Datatype

/-- All datatypes. -/
def all : List Datatype := [boolean, string, number, raw, function, array]

/-- The canonical spelling. -/
def name : Datatype → String
  | boolean => "BOOLEAN"
  | string => "STRING"
  | number => "NUMBER"
  | raw => "RAW"
  | function => "FUNCTION"
  | array => "ARRAY"

/-- The datatype with the given spelling. -/
def parse (s : String) : Except VocabularyError Datatype :=
  match all.find? (·.name == canonicalSpelling s) with
  | some d => .ok d
  | none => .error (.invalidDatatype s)

end Datatype

/-- The operator of a comparison. -/
inductive Operator where
  | eq
  | ne
  | lt
  | le
  | gt
  | ge
  | like
  | ilike
  | notLike
  | between
  | inList
  | notInList
  | isNull
  | isNotNull
  deriving DecidableEq, Repr

namespace Operator

/-- All operators. -/
def all : List Operator :=
  [eq, ne, lt, le, gt, ge, like, ilike, notLike, between, inList, notInList, isNull, isNotNull]

/-- The canonical spelling, which is also the SQL text. -/
def name : Operator → String
  | eq => "="
  | ne => "<>"
  | lt => "<"
  | le => "<="
  | gt => ">"
  | ge => ">="
  | like => "LIKE"
  | ilike => "ILIKE"
  | notLike => "NOT LIKE"
  | between => "BETWEEN"
  | inList => "IN"
  | notInList => "NOT IN"
  | isNull => "IS NULL"
  | isNotNull => "IS NOT NULL"

/-- The operator takes no right-hand side. -/
def isNullary : Operator → Bool
  | isNull | isNotNull => true
  | _ => false

/-- The operator with the given spelling. -/
def parse (s : String) : Except VocabularyError Operator :=
  match all.find? (·.name == canonicalSpelling s) with
  | some o => .ok o
  | none => .error (.invalidOperator s)

end Operator

end QuerySql
