import QuerySql.Json.Printer
import QuerySql.Text.Escape
import QuerySql.Vocabulary

/-!
# Notes of a compilation

A compilation takes notes as it goes: warnings about parts that it leaves out, and the statements
it arrives at. `Noted` is a result together with its notes, and a monad that keeps them in order.

* `Warning.message`, `Note.message` are the texts of the notes.
-/

namespace QuerySql

/-- A part of a query that is left out of the statement, or a statement that is rejected. -/
inductive Warning where
  /-- An unknown spelling leaves the comparison on `clause` incomplete. -/
  | absorbed (error : VocabularyError) (clause : String)
  | noRightHandSide (clause : String)
  | unsupportedShape (name : String)
  | mismatchedValue (datatype : Datatype) (value : Json)
  | unresolvableTypedValue
  | rejected (found : String)

/-- The text of the warning. -/
def Warning.message : Warning → String
  | .absorbed e clause =>
    e.message ++ "; the comparison on `" ++ clause ++ "` is left without a right-hand side"
  | .noRightHandSide clause =>
    "The comparison on `" ++ clause ++ "` has no datatype and no subquery to compare against."
  | .unsupportedShape name =>
    "The value given to `" ++ name ++ "` does not have a supported shape."
  | .mismatchedValue datatype value =>
    "`" ++ value.text ++ "` is not a " ++ datatype.name ++ " value and is left out."
  | .unresolvableTypedValue => "A CASE value has neither a datatype nor a subquery."
  | .rejected found => "Rejected statement containing `" ++ found ++ "`."

/-- The importance of a note. -/
inductive Level where
  | trace
  | debug
  | warn
  deriving DecidableEq, Repr

/-- The name of the level. -/
def Level.name : Level → String
  | .trace => "TRACE"
  | .debug => "DEBUG"
  | .warn => "WARN"

/-- The place of the level, from the least important on. -/
def Level.rank : Level → Nat
  | .trace => 0
  | .debug => 1
  | .warn => 2

/-- Notes of level `l` are shown to a reader who asks for level `asked`. -/
def Level.isShown (asked l : Level) : Bool := asked.rank ≤ l.rank

/-- A note. -/
inductive Note where
  | warning (warning : Warning)
  /-- The statement before its literals are written in or taken out. -/
  | marked (sql : String)
  | built (sql : String)
  | generated (sql : String) (params : Nat)

/-- The level of the note. -/
def Note.level : Note → Level
  | .warning _ => .warn
  | .marked _ => .trace
  | .built _ | .generated .. => .debug

/-- The text of the note. -/
def Note.message : Note → String
  | .warning w => w.message
  | .marked sql => "Tagged SQL: " ++ Text.quoted sql
  | .built sql => "Built SQL: " ++ sql
  | .generated sql params =>
    "Generated SQL: " ++ sql ++ " with " ++ Nat.repr params ++ " parameter(s)"

/-- A result and the notes taken on the way to it. -/
structure Noted (α : Type) where
  value : α
  notes : List Note := []

namespace Noted

/-- Takes a note. -/
def note (n : Note) : Noted Unit := ⟨(), [n]⟩

/-- Warns. -/
def warn (w : Warning) : Noted Unit := note (.warning w)

instance : Monad Noted where
  pure a := ⟨a, []⟩
  bind x f := ⟨(f x.value).value, x.notes ++ (f x.value).notes⟩

variable {α β : Type}

@[simp] theorem value_pure (a : α) : (pure a : Noted α).value = a := rfl

@[simp] theorem value_bind (x : Noted α) (f : α → Noted β) :
    (x >>= f).value = (f x.value).value := rfl

@[simp] theorem notes_bind (x : Noted α) (f : α → Noted β) :
    (x >>= f).notes = x.notes ++ (f x.value).notes := rfl

end Noted

end QuerySql
