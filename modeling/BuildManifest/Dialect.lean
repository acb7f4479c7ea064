import BuildManifest.Ini.Reading
import BuildManifest.Yaml.Document

/-!
# Dialects

A manifest is written as YAML or in the flat dialect.  Which one is decided by how the text
mentions `core`, and failing that by which of the two can read it.

## What is here

* `Dialect`, `ParseError` — the dialects, and why a text cannot be read.
* `parse` — read a text in a given dialect.
* `parseDetected`, `detect` — read a text in the dialect it appears to be in.
-/

set_option autoImplicit false

namespace BuildManifest

/-- How a manifest is written. -/
inductive Dialect where
  | yaml
  | ini
  deriving DecidableEq, Repr

/-- The name of a dialect. -/
def Dialect.name : Dialect → String
  | .yaml => "yaml"
  | .ini => "ini"

/-- Why a text cannot be read. -/
inductive ParseError where
  /-- It is not one YAML document. -/
  | yaml (error : Yaml.DocumentError)
  /-- Its YAML document is neither a mapping nor empty. -/
  | notMapping
  /-- A line of it is no assignment that can be carried out. -/
  | ini (error : Ini.IniError)
  deriving Repr

namespace ParseError

/-- The dialect in which it could not be read. -/
def dialect : ParseError → Dialect
  | .yaml _ => .yaml
  | .notMapping => .yaml
  | .ini _ => .ini

/-- The line of the error, from one. -/
def line? : ParseError → Option Nat
  | .yaml error => error.line?
  | .notMapping => none
  | .ini error => some error.line

/-- What is wrong, without dialect and line. -/
def detail : ParseError → String
  | .yaml error => error.message
  | .notMapping => "top-level value must be a mapping"
  | .ini error => error.fault.message

/-- The message of the error. -/
def message (e : ParseError) : String :=
  let place := match e.line? with
    | some line => " at line " ++ toString line
    | none => ""
  e.dialect.name ++ " syntax error" ++ place ++ ": " ++ e.detail

end ParseError

open Text

/-- Whether a line starts with `core:`. -/
def startsYamlCore (line : List Char) : Bool := "core:".toList.isPrefixOf (trimStart line)

/-- Whether a line starts with `core`, blanks and an equals sign. -/
def startsIniCore (line : List Char) : Bool :=
  let text := trimStart line
  "core".toList.isPrefixOf text && (trimStart (text.drop 4)).head? == some '='

/-- Whether some line sets `core` the YAML way. -/
def hasYamlCore (text : String) : Bool := (lines text.toList).any startsYamlCore

/-- Whether some line sets `core` the flat way. -/
def hasIniCore (text : String) : Bool := (lines text.toList).any startsIniCore

/-- Read a text as YAML; nothing at all is an empty mapping. -/
def parseYaml (text : String) : Except ParseError Tree :=
  if isBlankText text then .ok (.mapping [])
  else
    match Yaml.readYaml text with
    | .error error => .error (.yaml error)
    | .ok .null => .ok (.mapping [])
    | .ok (.mapping entries) => .ok (.mapping entries)
    | .ok _ => .error .notMapping

/-- Read a text in the flat dialect. -/
def parseIni (text : String) : Except ParseError Tree :=
  match Ini.readIni text with
  | .error error => .error (.ini error)
  | .ok tree => .ok tree

/-- Read a text in a given dialect. -/
def parse (text : String) : Dialect → Except ParseError Tree
  | .yaml => parseYaml text
  | .ini => parseIni text

/-- Read a text in the dialect that its `core` line is written in.  Without such a line the flat
dialect is tried after YAML, and the YAML error counts when both fail. -/
def parseDetected (text : String) : Except ParseError (Tree × Dialect) :=
  if hasYamlCore text then (parseYaml text).map fun tree => (tree, .yaml)
  else if hasIniCore text then (parseIni text).map fun tree => (tree, .ini)
  else
    match parseYaml text with
    | .ok tree => .ok (tree, .yaml)
    | .error error =>
      match parseIni text with
      | .ok tree => .ok (tree, .ini)
      | .error _ => .error error

/-- The dialect in which a text reads; YAML when it reads in none. -/
def detect (text : String) : Dialect :=
  match parseDetected text with
  | .ok (_, dialect) => dialect
  | .error _ => .yaml

end BuildManifest
