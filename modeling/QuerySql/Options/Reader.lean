import QuerySql.Json.Parser
import QuerySql.Options

/-!
# Options in JSON

Options are read straight from the text, field by field, so the first fault in the text is the one
reported, be it a value of the wrong kind or text that is not JSON. Given as an object, a field may
not come twice, and unknown fields are passed over; given as an array, fields come in their order
and the last ones may be absent.

* `Options.parse` reads a text.
-/

namespace QuerySql

/-- Why a text does not give options. -/
inductive OptionsError where
  /-- The text is not JSON. -/
  | malformed
  /-- A field has a value of the wrong kind or comes twice. -/
  | wrongShape
  deriving DecidableEq, Repr

namespace OptionsReader

open Json (skipSpaces)

/-- What a part of the text gives, and the text after it. -/
abbrev Scanned (α : Type) := α × List Char

/-- A field of the options. -/
inductive Key where
  | withUnion
  | withSanitizedInjection
  | maxDepth
  deriving DecidableEq, Repr

/-- The fields in their order. -/
def Key.all : List Key := [.withUnion, .withSanitizedInjection, .maxDepth]

/-- The name of a field. -/
def Key.name : Key → String
  | .withUnion => "withUnion"
  | .withSanitizedInjection => "withSanitizedInjection"
  | .maxDepth => "maxDepth"

/-- The fault of a value that has another kind than it should, unless it is not even JSON. -/
def wrongKind (cs : List Char) : OptionsError :=
  match cs with
  | '[' :: _ | '\x7b' :: _ => .wrongShape
  | _ => if (Json.scalar? true cs).isSome then .wrongShape else .malformed

/-- A boolean. -/
def scanBool (cs : List Char) : Except OptionsError (Scanned Bool) :=
  match Json.scalar? true (skipSpaces cs) with
  | some (.bool b, rest) => .ok (b, rest)
  | _ => .error (wrongKind (skipSpaces cs))

/-- A natural number. -/
def scanNat (cs : List Char) : Except OptionsError (Scanned Nat) :=
  match Json.scalar? true (skipSpaces cs) with
  | some (.num n, rest) =>
    match n.toNat? with
    | some n => .ok (n, rest)
    | none => .error .wrongShape
  | _ => .error (wrongKind (skipSpaces cs))

/-- The value of a field, set in the options. -/
def scanField (o : Options) (key : Key) (cs : List Char) :
    Except OptionsError (Scanned Options) :=
  match key with
  | .withUnion => (scanBool cs).map fun (b, r) => ({ o with withUnion := b }, r)
  | .withSanitizedInjection =>
    (scanBool cs).map fun (b, r) => ({ o with withSanitizedInjection := b }, r)
  | .maxDepth => (scanNat cs).map fun (n, r) => ({ o with maxDepth := n }, r)

/-- The text after a colon. -/
def afterColon (cs : List Char) : Except OptionsError (List Char) :=
  match skipSpaces cs with
  | ':' :: rest => .ok rest
  | _ => .error .malformed

/-- A member of an object, set in the options. -/
def scanMember (seen : List Key) (o : Options) (cs : List Char) :
    Except OptionsError (Scanned (List Key × Options)) :=
  match cs with
  | '\x22' :: rest => do
    match Json.scanString? true rest with
    | none => .error .malformed
    | some (name, rest) =>
      match Key.all.find? (·.name.toList == name) with
      | none =>
        match Json.value? false (← afterColon rest) with
        | some (_, rest) => .ok ((seen, o), rest)
        | none => .error .malformed
      | some key =>
        if seen.contains key then .error .wrongShape
        else
          let (o, rest) ← scanField o key (← afterColon rest)
          .ok ((key :: seen, o), rest)
  | _ => .error .malformed

/-- The members of an object up to its closing brace, each of which takes a character. -/
def scanMembers :
    Nat → Bool → List Key → Options → List Char → Except OptionsError (Scanned Options)
  | 0, _, _, _, _ => .error .malformed
  | fuel + 1, isFirst, seen, o, cs =>
    match skipSpaces cs, isFirst with
    | '\x7d' :: rest, _ => .ok (o, rest)
    | ',' :: rest, false => do
      let ((seen, o), rest) ← scanMember seen o (skipSpaces rest)
      scanMembers fuel false seen o rest
    | cs, true => do
      let ((seen, o), rest) ← scanMember seen o cs
      scanMembers fuel false seen o rest
    | _, false => .error .malformed

/-- The items of an array as the given fields, up to its closing bracket. -/
def scanItems : List Key → Bool → Options → List Char → Except OptionsError (Scanned Options)
  | [], _, o, cs =>
    match skipSpaces cs with
    | ']' :: rest => .ok (o, rest)
    | _ => .error .malformed
  | key :: keys, isFirst, o, cs =>
    match skipSpaces cs, isFirst with
    | ']' :: rest, _ => .ok (o, rest)
    | ',' :: rest, false => do
      let (o, rest) ← scanField o key rest
      scanItems keys false o rest
    | cs, true => do
      let (o, rest) ← scanField o key cs
      scanItems keys false o rest
    | _, false => .error .malformed

/-- Options at the head of a text. -/
def scanOptions (cs : List Char) : Except OptionsError (Scanned Options) :=
  match skipSpaces cs with
  | '\x7b' :: rest => scanMembers (rest.length + 1) true [] {} rest
  | '[' :: rest => scanItems Key.all true {} rest
  | cs => .error (wrongKind cs)

end OptionsReader

/-- The options that a JSON text gives; absent fields have their defaults. -/
def Options.parse (text : String) : Except OptionsError Options := do
  let (o, rest) ← OptionsReader.scanOptions text.toList
  if (Json.skipSpaces rest).isEmpty then .ok o else .error .malformed

end QuerySql
