/-!
# TOML values

What a TOML document says, as a tree of tables.

## What is here

* `TomlValue` — values; a table remembers how it was written, which decides how it may go on.
* `TomlTable` — the operations on the entries of a table that the lines of a document stand for.
-/

set_option autoImplicit false

namespace BuildManifest

/-- How a table was written. -/
inductive TableOrigin where
  /-- In braces. -/
  | braces
  /-- Under a header of its own. -/
  | header
  /-- On the way to the header of another table. -/
  | implied
  /-- On the way to a key with points. -/
  | dotted
  deriving DecidableEq, Repr

/-- A TOML value.  Numbers with a point and moments in time are kept as they are written. -/
inductive TomlValue where
  | string (value : String)
  | integer (value : Int)
  | float (written : String)
  | boolean (value : Bool)
  | moment (written : String)
  | array (items : List TomlValue)
  | table (origin : TableOrigin) (entries : List (String × TomlValue))
  /-- Tables under headers of one name. -/
  | tables (elements : List (List (String × TomlValue)))
  deriving Repr

/-- The entries of a table. -/
abbrev TomlTable := List (String × TomlValue)

namespace TomlTable

/-- Replace the value of a key. -/
def replace (entries : TomlTable) (key : String) (value : TomlValue) : TomlTable :=
  entries.map fun entry => if entry.1 = key then (key, value) else entry

/-- Change the last element, if there is one. -/
def changeLast (elements : List TomlTable) (change : TomlTable → Option TomlTable) :
    Option (List TomlTable) :=
  match elements.getLast? with
  | some last => (change last).map fun changed => elements.dropLast ++ [changed]
  | none => none

/-- Give a key with points a value.  A key has one value, and a table that has a header of its own
or was written in braces does not grow this way. -/
def assign (value : TomlValue) : List String → TomlTable → Option TomlTable
  | [], _ => none
  | [key], entries =>
    if (entries.lookup key).isSome then none else some (entries ++ [(key, value)])
  | key :: next :: rest, entries =>
    match entries.lookup key with
    | none =>
      (assign value (next :: rest) []).map fun inner => entries ++ [(key, .table .dotted inner)]
    | some (.table .dotted inner) =>
      (assign value (next :: rest) inner).map fun inner =>
        replace entries key (.table .dotted inner)
    | some (.table .implied inner) =>
      if rest.isEmpty then none
      else
        (assign value (next :: rest) inner).map fun inner =>
          replace entries key (.table .implied inner)
    | some (.tables elements) =>
      if rest.isEmpty then none
      else
        (changeLast elements (assign value (next :: rest))).map fun elements =>
          replace entries key (.tables elements)
    | some _ => none

/-- Change the table of a path. -/
def changeAt (change : TomlTable → Option TomlTable) : List String → TomlTable → Option TomlTable
  | [], entries => change entries
  | key :: rest, entries =>
    match entries.lookup key with
    | some (.table origin inner) =>
      (changeAt change rest inner).map fun inner => replace entries key (.table origin inner)
    | some (.tables elements) =>
      (changeLast elements (changeAt change rest)).map fun elements =>
        replace entries key (.tables elements)
    | _ => none

/-- Carry out a header, where `finish` deals with the last key of its path. -/
def open? (finish : String → TomlTable → Option TomlTable) :
    List String → TomlTable → Option TomlTable
  | [], _ => none
  | [key], entries => finish key entries
  | key :: next :: rest, entries =>
    match entries.lookup key with
    | none =>
      (open? finish (next :: rest) []).map fun inner => entries ++ [(key, .table .implied inner)]
    | some (.table .braces _) => none
    | some (.table origin inner) =>
      (open? finish (next :: rest) inner).map fun inner =>
        replace entries key (.table origin inner)
    | some (.tables elements) =>
      (changeLast elements (open? finish (next :: rest))).map fun elements =>
        replace entries key (.tables elements)
    | some _ => none

/-- The last key of a table's header: a table has one header. -/
def openTable (key : String) (entries : TomlTable) : Option TomlTable :=
  match entries.lookup key with
  | none => some (entries ++ [(key, .table .header [])])
  | some (.table .implied inner) => some (replace entries key (.table .header inner))
  | some _ => none

/-- The last key of an element's header: elements have their headers one after the other. -/
def openElement (key : String) (entries : TomlTable) : Option TomlTable :=
  match entries.lookup key with
  | none => some (entries ++ [(key, .tables [[]])])
  | some (.tables elements) => some (replace entries key (.tables (elements ++ [[]])))
  | some _ => none

end TomlTable

end BuildManifest
