import BuildManifest.Tree.Basic
import BuildManifest.Text.Numeral

/-!
# Scalars as text

What a scalar reads as where a text is wanted, and which keys number the items of a list.
-/

set_option autoImplicit false

namespace BuildManifest.Tree

/-- The word for a truth value. -/
def boolWord (value : Bool) : String := if value then "true" else "false"

/-- The text of a string, number or truth value. -/
def scalarText? : Tree → Option String
  | .string value => some value
  | .number value => some value.text
  | .bool value => some (boolWord value)
  | _ => none

/-- An index: an integer, or a string of ASCII digits. -/
def isIndexKey : Tree → Bool
  | .number (.int _) => true
  | .string value => Text.isDigits value.toList
  | _ => false

/-- Number the items from `first` on. -/
def indexedFrom (first : Nat) : List Tree → Mapping
  | [] => []
  | item :: rest => (.number (.int first), item) :: indexedFrom (first + 1) rest

/-- A sequence as the mapping from positions to items; everything else as it is. -/
def indexed : Tree → Tree
  | .sequence items => .mapping (indexedFrom 0 items)
  | tree => tree

end BuildManifest.Tree
