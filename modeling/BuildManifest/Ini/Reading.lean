import BuildManifest.Ini.Assignment
import BuildManifest.Text.Lines

/-!
# Reading the flat dialect

A text of the flat dialect is a list of assignments.  Carried out one after the other on an empty
mapping they build its tree.

## What is here

* `nextIndex` — the index that an empty pair of brackets stands for.
* `assign` — carry out one assignment.
* `readIni` — the tree of a text, or its first bad line.
-/

set_option autoImplicit false

namespace BuildManifest.Ini

open BuildManifest.Text

/-- A fault and the number of its line, from one. -/
structure IniError where
  /-- The line. -/
  line : Nat
  /-- What is wrong with it. -/
  fault : IniFault
  deriving Repr

/-- One more than a key that is an index, zero for every other key. -/
def indexAfter : Tree → Nat
  | .number (.int value) => (value + 1).toNat
  | _ => 0

/-- One more than the greatest index among the keys. -/
def nextIndex : Mapping → Nat
  | [] => 0
  | (key, _) :: rest => max (indexAfter key) (nextIndex rest)

/-- The key of a step in a given mapping. -/
def Segment.keyIn (entries : Mapping) : Segment → Tree
  | .named key => key
  | .append => .number (.int (nextIndex entries))

/-- Put a value at the end of a path, through mappings that are made where there is nothing. -/
def assign (entries : Mapping) : List Segment → Tree → Except IniFault Mapping
  | [], _ => .ok entries
  | [last], value => .ok (Mapping.insert entries (last.keyIn entries) value)
  | step :: rest, value =>
    let key := step.keyIn entries
    match Mapping.find? entries key with
    | none => (assign [] rest value).map fun inner => Mapping.insert entries key (.mapping inner)
    | some (.mapping child) =>
      (assign child rest value).map fun inner => Mapping.insert entries key (.mapping inner)
    | some _ => .error (.occupied key)

/-- Carry out what a line says. -/
def applyLine (entries : Mapping) (line : List Char) : Except IniFault Mapping := do
  match ← readLine line with
  | some assignment => assign entries assignment.path assignment.value
  | none => return entries

/-- Carry out the lines from number `line` on. -/
def readLines (entries : Mapping) (line : Nat) : List (List Char) → Except IniError Mapping
  | [] => .ok entries
  | text :: rest =>
    match applyLine entries text with
    | .ok entries => readLines entries (line + 1) rest
    | .error fault => .error ⟨line, fault⟩

/-- The tree of a text. -/
def readIni (text : String) : Except IniError Tree :=
  (readLines [] 1 (lines text.toList)).map .mapping

end BuildManifest.Ini
