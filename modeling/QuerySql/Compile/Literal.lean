import QuerySql.Compile.Note
import QuerySql.Query.Basic
import QuerySql.Sql.Fragment
import QuerySql.Sql.Marker

/-!
# Literals in SQL

How the value of a comparison is written according to its datatype. A literal is marked for
binding unless it is static. What a datatype cannot take is left out with a warning.

* `formatScalar`, `formatArray`, `formatCall`, `formatValue` write values.
* `rightHandSide` is an operator with its value.
-/

namespace QuerySql.Compile

open Sql

/-- The plain text of a value: a string as it is, `NULL` for null, anything else as JSON. -/
def lexical : Json → String
  | .str s => s
  | .null => "NULL"
  | j => j.text

/-- A literal in its SQL form, marked unless it is static. -/
def literal (isStatic : Bool) (text : String) : String := if isStatic then text else mark text

/-- The elements of an array are written like the first string or number among them; whether that
is a string. -/
def isStringLed (items : List Json) : Bool :=
  (items.findSome? fun
    | .str _ => some true
    | .num _ => some false
    | _ => none).getD false

/-- An element of an array of literals, or nothing for an array or object in it. -/
def formatElement (isStatic stringLed : Bool) (item : Json) : Noted (List String) :=
  match item with
  | .arr _ | .obj _ => do
    Noted.warn (.mismatchedValue .array item)
    return []
  | .str s => return [literal isStatic (quoteLiteral s)]
  | _ =>
    return [literal isStatic (if stringLed then quoteLiteral (lexical item) else lexical item)]

/-- The elements of an array of literals, in order. -/
def formatElements (isStatic stringLed : Bool) : List Json → Noted (List String)
  | [] => return []
  | item :: rest => do
    let first ← formatElement isStatic stringLed item
    return first ++ (← formatElements isStatic stringLed rest)

/-- An array of literals, separated by commas. -/
def formatArray (isStatic : Bool) (items : List Json) : Noted String := do
  return joinFragments ", " (← formatElements isStatic (isStringLed items) items)

/-- A function call. Parameters that name columns are written bare. -/
def formatCall (isStatic : Bool) (call : FunctionCall) : Noted String := do
  if call.isField then
    return callText call.name (joinFragments ", " (call.params.map lexical))
  else
    return callText call.name (← formatArray isStatic call.params)

/-- A single value. Numbers and booleans must be of their kind; any value is a string in quotes,
and itself if raw. -/
def formatScalar (datatype : Datatype) (isStatic : Bool) (scalar : Json) : Noted String :=
  match datatype, scalar with
  | .string, _ => return literal isStatic (quoteLiteral (lexical scalar))
  | .raw, _ | .number, .num _ | .boolean, .bool _ => return literal isStatic (lexical scalar)
  | .number, _ | .boolean, _ => do
    Noted.warn (.mismatchedValue datatype scalar)
    return ""
  | .array, _ => formatArray isStatic [scalar]
  | .function, _ => do
    Noted.warn (.unsupportedShape datatype.name)
    return ""

/-- A value of any shape. Ranges, subqueries and unknown objects are no literals. -/
def formatValue (datatype : Datatype) (isStatic : Bool) (value : Value) : Noted String :=
  match value with
  | .literal scalar => formatScalar datatype isStatic scalar
  | .array items => formatArray isStatic items
  | .call function => formatCall isStatic function
  | .range .. | .subquery _ | .unsupported _ => do
    Noted.warn (.unsupportedShape datatype.name)
    return ""

/-- An operator with what it is applied to, if anything. -/
def applied (operator : Operator) (operand : String) : String :=
  joinFragments " " [operator.name, operand]

/-- An end of a range; an absent one is empty. -/
def formatEnd (datatype : Datatype) (isStatic : Bool) : Option Json → Noted String
  | none => return ""
  | some scalar => formatScalar datatype isStatic scalar

/-- The right-hand side of a comparison with a datatype. Without a value the operator stands
alone. -/
def rightHandSide (operator : Operator) (datatype : Datatype) (isStatic : Bool)
    (value : Option Value) : Noted String :=
  match operator, value with
  | .isNull, _ | .isNotNull, _ | _, none => return operator.name
  | .between, some (.range lower upper) => do
    let lower ← formatEnd datatype isStatic lower
    let upper ← formatEnd datatype isStatic upper
    return joinFragments " " [operator.name, lower, "AND", upper]
  | .between, some _ => do
    Noted.warn (.unsupportedShape operator.name)
    return operator.name
  | .inList, some value | .notInList, some value => do
    return applied operator (parenthesized (← formatValue datatype isStatic value))
  | _, some value => do
    return applied operator (← formatValue datatype isStatic value)

end QuerySql.Compile
