import BuildManifest.Toml.Scalar

/-!
# Reading TOML

A text as the table it describes, or nothing if it is no TOML document.

## What is here

* `readValue?` — a value, nested fewer than eighty levels deep.
* `readStatement` — one line of a document.
* `readToml?` — a document.
-/

set_option autoImplicit false

namespace BuildManifest.Toml

/-- Give the keys of a table in braces their values. -/
def bracesTable? (pairs : List (List String × TomlValue)) : Option TomlValue :=
  (pairs.foldl (fun entries pair => entries.bind (TomlTable.assign pair.2 pair.1))
    (some [])).map (.table .braces)

mutual

/-- Read a value. -/
def readValue? (depth : Nat) : Nat → List Char → Read TomlValue
  | 0, _ => none
  | steps + 1, text =>
    match text with
    | '"' :: _ => (readLongString? text).map fun read => (.string (String.ofList read.1), read.2)
    | '\'' :: _ => (readLongString? text).map fun read => (.string (String.ofList read.1), read.2)
    | '[' :: rest =>
      if depth + 1 < nestingLimit then
        (readItems? (depth + 1) steps rest).map fun read => (.array read.1, read.2)
      else none
    | '\x7b' :: rest =>
      if depth + 1 < nestingLimit then
        match skipBlanks rest with
        | '\x7d' :: rest => some (.table .braces [], rest)
        | rest =>
          (readPairs? (depth + 1) steps rest).bind fun read =>
            (bracesTable? read.1).map fun table => (table, read.2)
      else none
    | _ =>
      let (word, rest) := splitWord text
      (wordValue? word).map fun value => (value, rest)

/-- Read the items of an array up to its closing bracket. -/
def readItems? (depth : Nat) : Nat → List Char → Read (List TomlValue)
  | 0, _ => none
  | steps + 1, text =>
    match skipLines text.length text with
    | some (']' :: rest) => some ([], rest)
    | some start =>
      match readValue? depth steps start with
      | none => none
      | some (item, rest) =>
        match skipLines rest.length rest with
        | some (',' :: rest) =>
          (readItems? depth steps rest).map fun read => (item :: read.1, read.2)
        | some (']' :: rest) => some ([item], rest)
        | _ => none
    | none => none

/-- Read the pairs of a table up to its closing brace. -/
def readPairs? (depth : Nat) : Nat → List Char → Read (List (List String × TomlValue))
  | 0, _ => none
  | steps + 1, text =>
    match readKey? text with
    | some (key, '=' :: rest) =>
      match readValue? depth steps (skipBlanks rest) with
      | none => none
      | some (value, rest) =>
        match skipBlanks rest with
        | ',' :: rest =>
          (readPairs? depth steps rest).map fun read => ((key, value) :: read.1, read.2)
        | '\x7d' :: rest => some ([(key, value)], rest)
        | _ => none
    | _ => none

end

/-- A document under construction. -/
structure Draft where
  /-- The tables so far. -/
  root : TomlTable := []
  /-- The path of the table that keys belong to. -/
  current : List String := []

/-- Carry out a header in single or double brackets. -/
def readHeader? (draft : Draft) (text : List Char) : Read Draft :=
  match text with
  | '[' :: rest =>
    (readKey? rest).bind fun (path, rest) =>
      match rest with
      | ']' :: ']' :: rest =>
        (TomlTable.open? TomlTable.openElement path draft.root).map fun root => (⟨root, path⟩, rest)
      | _ => none
  | _ =>
    (readKey? text).bind fun (path, rest) =>
      match rest with
      | ']' :: rest =>
        (TomlTable.open? TomlTable.openTable path draft.root).map fun root => (⟨root, path⟩, rest)
      | _ => none

/-- Carry out an assignment. -/
def readAssignment? (draft : Draft) (text : List Char) : Read Draft :=
  (readKey? text).bind fun (key, rest) =>
    match rest with
    | '=' :: rest =>
      (readValue? 0 (2 * rest.length + 2) (skipBlanks rest)).bind fun (value, rest) =>
        (TomlTable.changeAt (TomlTable.assign value key) draft.current draft.root).map fun root =>
          ({ draft with root }, rest)
    | _ => none

/-- Carry out the lines of a document. -/
def readLines? (draft : Draft) : Nat → List Char → Option Draft
  | 0, _ => none
  | steps + 1, text =>
    match skipLines text.length text with
    | none => none
    | some [] => some draft
    | some ('[' :: rest) =>
      (readHeader? draft rest).bind fun (draft, rest) =>
        (endOfLine? rest).bind (readLines? draft steps)
    | some start =>
      (readAssignment? draft start).bind fun (draft, rest) =>
        (endOfLine? rest).bind (readLines? draft steps)

/-- The table that a document describes. -/
def readToml? (text : String) : Option TomlTable :=
  let input := match text.toList with
    | '\ufeff' :: rest => rest
    | rest => rest
  (readLines? {} (input.length + 1) input).map Draft.root

end BuildManifest.Toml
