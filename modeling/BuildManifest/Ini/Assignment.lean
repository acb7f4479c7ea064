import BuildManifest.Text.Blank
import BuildManifest.Text.Numeral
import BuildManifest.Tree.Scalar

/-!
# Assignments

One line of the flat dialect: `base[segment]...[segment] = value`.

## What is here

* `IniFault` — what can be wrong with a line.
* `Segment`, `Assignment` — where a line points, and the scalar it puts there.
* `readKey`, `readValue`, `readLine` — a line's parts and the line as a whole; blank lines and
  comments hold no assignment.
-/

set_option autoImplicit false

namespace BuildManifest.Ini

open BuildManifest.Text

/-- What is wrong with a line. -/
inductive IniFault where
  /-- No equals sign. -/
  | notAssignment (text : String)
  /-- The part before the brackets is empty or holds other characters. -/
  | invalidKey (key : String)
  /-- Something stands between or after the brackets. -/
  | unexpected (text key : String)
  /-- A bracket is not closed. -/
  | openBracket (key : String)
  /-- A quote is not closed. -/
  | openQuote (value : String)
  /-- The path leads through a value that is not a mapping. -/
  | occupied (key : Tree)
  deriving Repr

/-- The wording of a fault. -/
def IniFault.message : IniFault → String
  | .notAssignment text => "expected 'key = value', found '" ++ text ++ "'"
  | .invalidKey key => "invalid key '" ++ key ++ "'"
  | .unexpected text key => "unexpected '" ++ text ++ "' in key '" ++ key ++ "'"
  | .openBracket key => "unterminated '[' in key '" ++ key ++ "'"
  | .openQuote value => "unterminated quoted value " ++ value
  | .occupied key =>
    "'" ++ (key.scalarText?.getD "") ++ "' already holds a value and cannot contain nested keys"

/-- One step of a path. -/
inductive Segment where
  /-- To the value of a key. -/
  | named (key : Tree)
  /-- To the next free index. -/
  | append
  deriving Repr

/-- What a line assigns. -/
structure Assignment where
  /-- Where the value goes. -/
  path : List Segment
  /-- The value. -/
  value : Tree
  deriving Repr

/-! ## Keys -/

/-- A character of the part before the brackets. -/
def isBaseChar (c : Char) : Bool := c.isAlphanum || c == '_' || c == '-' || c == '.'

/-- The inside of a text in the given quotes. -/
def inside? (quote : Char) : List Char → Option (List Char)
  | first :: rest =>
    if first = quote ∧ rest.getLast? = some quote then some rest.dropLast else none
  | [] => none

/-- A text without the quotes around it. -/
def unquoted (text : List Char) : List Char :=
  (inside? '"' text).getD ((inside? '\'' text).getD text)

/-- The key that a text in brackets names: digits are an index if they fit 64 bits. -/
def segmentKey (text : List Char) : Tree :=
  match if isDigits text then readNatBelow (Nat.pow 2 64) text else none with
  | some index => .number (.int index)
  | none => .string (String.ofList text)

/-- The step for the text between two brackets. -/
def segmentOf (text : List Char) : Segment :=
  let name := unquoted (trim text)
  if name.isEmpty then .append else .named (segmentKey name)

/-- The steps in brackets; nothing may stand between them. -/
def readSegments (key : String) : List Char → Except IniFault (List Segment)
  | [] => .ok []
  | '[' :: body =>
    match _h : body.dropWhile (· != ']') with
    | [] => .error (.openBracket key)
    | _ :: rest => do
      let more ← readSegments key rest
      return segmentOf (body.takeWhile (· != ']')) :: more
  | rest => .error (.unexpected (String.ofList rest) key)
termination_by text => text.length
decreasing_by
  have := (List.dropWhile_suffix (· != ']') (l := body)).length_le
  rw [_h] at this
  simp only [List.length_cons] at this ⊢
  omega

/-- The path of a key. -/
def readKey (key : List Char) : Except IniFault (List Segment) := do
  let base := trim (key.takeWhile (· != '['))
  if base.isEmpty ∨ !base.all isBaseChar then throw (.invalidKey (String.ofList key))
  let more ← readSegments (String.ofList key) (key.dropWhile (· != '['))
  return .named (.string (String.ofList base)) :: more

/-! ## Values -/

/-- Equality up to the case of ASCII letters; the second word is in lower case. -/
def isWordAnyCase (text : List Char) (word : String) : Bool :=
  text.map Char.toLower == word.toList

/-- The value of a text without quotes: a 64-bit integer, a truth value or the text. -/
def bareValue (text : List Char) : Tree :=
  match readIntBetween (-Int.pow 2 63) (Int.pow 2 63 - 1) text with
  | some value => .number (.int value)
  | none =>
    if isWordAnyCase text "true" then .bool true
    else if isWordAnyCase text "false" then .bool false
    else .string (String.ofList text)

/-- The value of the text after the equals sign. -/
def readValue (text : List Char) : Except IniFault Tree :=
  match text with
  | first :: _ =>
    if first = '"' ∨ first = '\'' then
      match inside? first text with
      | some content => .ok (.string (String.ofList content))
      | none => .error (.openQuote (String.ofList text))
    else .ok (bareValue text)
  | [] => .ok (bareValue [])

/-- The assignment of a line, if it holds one. -/
def readLine (line : List Char) : Except IniFault (Option Assignment) :=
  let text := trim line
  match text with
  | [] => .ok none
  | first :: _ =>
    if first = ';' ∨ first = '#' then .ok none
    else
      match text.dropWhile (· != '=') with
      | [] => .error (.notAssignment (String.ofList text))
      | _ :: value => do
        let path ← readKey (trim (text.takeWhile (· != '=')))
        let value ← readValue (trim value)
        return some ⟨path, value⟩

end BuildManifest.Ini
