import QuerySql.Query.DecodeError

/-!
# Records in a document

A record is written as an object, whose members may come in any order and among others, or as an
array of its fields in their order. Object members are read in document order, so that the first
bad one is the error; a required one that is absent is noticed last.

* `Record.read` reads a record in either form.
-/

namespace QuerySql

/-- A JSON value whose parts have been turned into `ν`. -/
structure Node (ν : Type) where
  json : Json
  items : List ν := []
  members : List (String × ν) := []

/-- A JSON value with its parts as they are. -/
def Json.node : Json → Node Json
  | .arr items => ⟨.arr items, items, []⟩
  | .obj members => ⟨.obj members, [], members⟩
  | j => ⟨j, [], []⟩

/-- A field of a record `σ`. -/
structure Field (ν σ : Type) where
  key : String
  /-- The field may be left out at the end of an array. -/
  optional : Bool := false
  /-- Reads the field and stores it. -/
  read : ν → σ → Except ShapeError σ

/-- A record `σ`, as it is written in a document. -/
structure Record (ν σ : Type) where
  name : String
  fields : List (Field ν σ)
  /-- The keys that an object must have. -/
  required : List String := []

namespace Record

variable {ν σ : Type}

/-- Reads the members of an object in document order; unknown keys are passed over. -/
def readMembers (fields : List (Field ν σ)) : List (String × ν) → σ → Except ShapeError σ
  | [], s => .ok s
  | (key, part) :: rest, s =>
    match fields.find? (·.key == key) with
    | none => readMembers fields rest s
    | some field =>
      match field.read part s with
      | .ok s => readMembers fields rest s
      | .error e => .error e

/-- Reads the items of an array as the fields of `r` from number `index` on. -/
def readItems (r : Record ν σ) (length : Nat) :
    List (Field ν σ) → List ν → Nat → σ → Except ShapeError σ
  | [], [], _, s => .ok s
  | [], _ :: _, _, _ => .error (.tooLong length)
  | field :: fields, [], index, s =>
    if field.optional then readItems r length fields [] (index + 1) s
    else .error (.tooShort index r.name r.fields.length)
  | field :: fields, part :: parts, index, s =>
    match field.read part s with
    | .ok s => readItems r length fields parts (index + 1) s
    | .error e => .error e

/-- Reads a record, whose fields are those of `start` until they are read. -/
def read (r : Record ν σ) (start : σ) (n : Node ν) : Except ShapeError σ :=
  match n.json with
  | .obj _ =>
    match readMembers r.fields n.members start with
    | .error e => .error e
    | .ok s =>
      match r.required.find? fun key => (n.members.lookup key).isNone with
      | some key => .error (.missingField key)
      | none => .ok s
  | .arr _ => r.readItems n.items.length r.fields n.items 0 start
  | j => .error (.invalidType j (.record r.name))

end Record

/-! ## Plain values -/

namespace Json

/-- A value that may be null. -/
def nullable {α : Type} (j : Json) (read : Except ShapeError α) : Except ShapeError (Option α) :=
  match j with
  | .null => .ok none
  | _ => read.map some

/-- A string. -/
def string : Json → Except ShapeError String
  | .str s => .ok s
  | j => .error (.invalidType j .string)

/-- A boolean. -/
def boolean : Json → Except ShapeError Bool
  | .bool b => .ok b
  | j => .error (.invalidType j .boolean)

/-- A boolean, or null for false. -/
def flag (j : Json) : Except ShapeError Bool := (j.nullable j.boolean).map (·.getD false)

/-- A string, or null for none. -/
def string? (j : Json) : Except ShapeError (Option String) := j.nullable j.string

/-- An array of strings. -/
def strings : Json → Except ShapeError (List String)
  | .arr items => items.mapM string
  | j => .error (.invalidType j .sequence)

/-- An object whose members are strings. -/
def stringMap : Json → Except ShapeError (List (String × String))
  | .obj members => members.mapM fun (key, value) => value.string.map (key, ·)
  | j => .error (.invalidType j .map)

end Json

end QuerySql
