import BuildManifest.Tree.Scalar

/-!
# Writing JSON

A tree as an indented JSON text.  Every tree has one except those with a key that no JSON text can
stand for.

## What is here

* `JsonError` — the keys that cannot be written.
* `jsonString`, `jsonKey?` — strings with their escapes, and keys as strings.
* `printJson` — the text, two columns of indentation per level.
-/

set_option autoImplicit false

namespace BuildManifest

/-- A key that cannot be written. -/
inductive JsonError where
  /-- A key that is neither a text, a number nor a truth value. -/
  | keyNotText
  /-- A key that is an infinite number or not a number. -/
  | keyNotFinite
  deriving DecidableEq, Repr

/-- The wording of the error. -/
def JsonError.message : JsonError → String
  | .keyNotText => "key must be a string"
  | .keyNotFinite => "float key must be finite (got NaN or +/-inf)"

namespace Json

/-- One character inside quotes: quotes, backslashes and controls are escaped. -/
def escaped (c : Char) : String :=
  if c = '"' then "\\\""
  else if c = '\\' then "\\\\"
  else if c = '\x08' then "\\b"
  else if c = '\x0c' then "\\f"
  else if c = '\n' then "\\n"
  else if c = '\r' then "\\r"
  else if c = '\t' then "\\t"
  else if c.toNat < 0x20 then "\\u" ++ String.ofList (Text.hexDigits 4 c.toNat)
  else String.singleton c

/-- A string in quotes. -/
def jsonString (text : String) : String :=
  "\"" ++ String.join (text.toList.map escaped) ++ "\""

/-- The notation of numbers: as in manifests, but with the sign of every exponent. -/
def jsonDecimal : DecimalNotation := { plainDecimal with exponentPlus := "+" }

/-- The text of a key. -/
def keyText : Tree → Except JsonError String
  | .string text => .ok text
  | .bool value => .ok (Tree.boolWord value)
  | .number (.int value) => .ok (toString value)
  | .number (.float value) =>
    if value.isFinite then .ok (jsonDecimal.render value) else .error .keyNotFinite
  | _ => .error .keyNotText

/-- The text of a number; what is not finite is written as nothing. -/
def numberText : Number → String
  | .int value => toString value
  | .float value => if value.isFinite then jsonDecimal.render value else "null"

/-- The start of a line at a level. -/
def newLine (level : Nat) : String := "\n" ++ String.ofList (List.replicate (2 * level) ' ')

mutual

/-- A value whose inside is at the level after `level`. -/
def print (level : Nat) : Tree → Except JsonError String
  | .null => .ok "null"
  | .bool value => .ok (Tree.boolWord value)
  | .number value => .ok (numberText value)
  | .string text => .ok (jsonString text)
  | .sequence [] => .ok "[]"
  | .sequence (first :: rest) => do
    let items ← printItems (level + 1) (first :: rest)
    return "[" ++ String.intercalate "," items ++ newLine level ++ "]"
  | .mapping [] => .ok "\x7b\x7d"
  | .mapping (first :: rest) => do
    let entries ← printEntries (level + 1) (first :: rest)
    return "\x7b" ++ String.intercalate "," entries ++ newLine level ++ "\x7d"
  | .tagged name content => do
    let inner ← print (level + 1) content
    return "\x7b" ++ newLine (level + 1) ++ jsonString ("!" ++ name) ++ ": " ++ inner ++
      newLine level ++ "\x7d"

/-- The items of a sequence, each on a line of its own. -/
def printItems (level : Nat) : List Tree → Except JsonError (List String)
  | [] => .ok []
  | item :: rest => do
    let text ← print level item
    let more ← printItems level rest
    return (newLine level ++ text) :: more

/-- The entries of a mapping, each on a line of its own. -/
def printEntries (level : Nat) : List (Tree × Tree) → Except JsonError (List String)
  | [] => .ok []
  | (key, value) :: rest => do
    let name ← keyText key
    let text ← print level value
    let more ← printEntries level rest
    return (newLine level ++ jsonString name ++ ": " ++ text) :: more

end

end Json

/-- The JSON text of a tree. -/
def printJson (tree : Tree) : Except JsonError String := Json.print 0 tree

end BuildManifest
