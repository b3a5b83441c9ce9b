/-!
# TOML values

A TOML document as a tree. Tables remember how they came about, because that decides what may be
added to them later.

* `Toml.define`, `Toml.defineElement` are the two kinds of table headers, `Toml.assign` is an
  assignment; each refuses what is already there.
-/

namespace QuerySql

/-- How a table came about. -/
inductive TableKind where
  /-- By a header. -/
  | headed
  /-- By a header of a table inside it. -/
  | implied
  /-- By a dotted key. -/
  | dotted
  /-- As a value between braces. -/
  | inline
  deriving DecidableEq, Repr

/-- A TOML value. Only the kind of a float or a date is kept. -/
inductive Toml where
  | string (s : String)
  | integer (n : Int)
  | float
  | boolean (b : Bool)
  | date
  | array (items : List Toml)
  | table (kind : TableKind) (entries : List (String × Toml))
  /-- Tables that repeated headers add to; the newest comes first. -/
  | tables (items : List (List (String × Toml)))

namespace Toml

/-- The entries of a table. -/
abbrev Entries := List (String × Toml)

/-- Sets an entry: a known key keeps its place, a new one goes to the end. -/
def set (key : String) (value : Toml) : Entries → Entries
  | [] => [(key, value)]
  | (k, v) :: rest => if k = key then (k, value) :: rest else (k, v) :: set key value rest

/-- Changes the table that a path of headers leads to, or makes it. Of repeated tables the newest
is meant. -/
def atPath (change : Entries → Option Entries) : List String → Entries → Option Entries
  | [], entries => change entries
  | key :: path, entries => do
    match entries.lookup key with
    | none => return set key (.table .implied (← atPath change path [])) entries
    | some (.table .inline _) => none
    | some (.table kind inner) => return set key (.table kind (← atPath change path inner)) entries
    | some (.tables (newest :: older)) =>
      return set key (.tables ((← atPath change path newest) :: older)) entries
    | some _ => none

/-- Makes a table with a header; one that another header implied becomes that table. -/
def defineHere (key : String) (entries : Entries) : Option Entries :=
  match entries.lookup key with
  | none => some (set key (.table .headed []) entries)
  | some (.table .implied inner) => some (set key (.table .headed inner) entries)
  | some _ => none

/-- Adds a table to those that a repeated header makes. -/
def defineElementHere (key : String) (entries : Entries) : Option Entries :=
  match entries.lookup key with
  | none => some (set key (.tables [[]]) entries)
  | some (.tables items) => some (set key (.tables ([] :: items)) entries)
  | some _ => none

/-- A header of a table. -/
def define (path : List String) (root : Entries) : Option Entries := do
  atPath (defineHere (← path.getLast?)) path.dropLast root

/-- A header of one of several tables. -/
def defineElement (path : List String) (root : Entries) : Option Entries := do
  atPath (defineElementHere (← path.getLast?)) path.dropLast root

/-- Assigns a value to a dotted key. The tables on the way are made by dotted keys; a table that a
header implied and the newest of repeated tables can be passed through, but are not open to entries
of their own. -/
def assignHere (value : Toml) : Bool → List String → Entries → Option Entries
  | _, [], _ => none
  | isOpen, [key], entries =>
    if isOpen && (entries.lookup key).isNone then some (set key value entries) else none
  | _, key :: path, entries => do
    match entries.lookup key with
    | none => return set key (.table .dotted (← assignHere value true path [])) entries
    | some (.table .dotted inner) =>
      return set key (.table .dotted (← assignHere value true path inner)) entries
    | some (.table .implied inner) =>
      return set key (.table .implied (← assignHere value false path inner)) entries
    | some (.tables (newest :: older)) =>
      return set key (.tables ((← assignHere value false path newest) :: older)) entries
    | some _ => none

/-- Assigns a value to a dotted key of the table that a path leads to. -/
def assign (table key : List String) (value : Toml) (root : Entries) : Option Entries :=
  atPath (assignHere value true key) table root

end Toml

end QuerySql
