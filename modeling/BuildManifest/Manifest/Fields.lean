import BuildManifest.Tree.Scalar

/-!
# Records of optional fields

A mapping read as a record of a fixed list of fields.  A key stands for a field by its name or by
its position in the list; keys that stand for no field are passed over.

## What is here

* `Fields.isKey`, `Fields.standsFor` — the keys a record may have, and the field of a key.
* `Fields.areRecord` — every key is one, and no field is given twice.
* `Fields.value` — the value of a field, `null` when it is not given.
* `Tree.hasTag` — whether a tag stands anywhere inside a tree.
-/

set_option autoImplicit false

namespace BuildManifest

namespace Tree

mutual

/-- A tag stands somewhere inside the tree. -/
def hasTag : Tree → Bool
  | .tagged _ _ => true
  | .sequence items => itemsHaveTag items
  | .mapping entries => entriesHaveTag entries
  | _ => false

/-- A tag stands somewhere inside the items. -/
def itemsHaveTag : List Tree → Bool
  | [] => false
  | item :: rest => hasTag item || itemsHaveTag rest

/-- A tag stands somewhere inside the keys or values. -/
def entriesHaveTag : List (Tree × Tree) → Bool
  | [] => false
  | (key, value) :: rest => hasTag key || hasTag value || entriesHaveTag rest

end

end Tree

namespace Fields

/-- A record's keys are strings and whole numbers from zero up. -/
def isKey : Tree → Bool
  | .string _ => true
  | .number (.int position) => 0 ≤ position
  | _ => false

/-- A key stands for a field of that name or position. -/
def standsFor (names : List String) (key : Tree) (name : String) : Bool :=
  match key with
  | .string text => text == name
  | .number (.int position) => 0 ≤ position && names[position.toNat]? == some name
  | _ => false

/-- The values given to a field. -/
def values (names : List String) (entries : Mapping) (name : String) : List Tree :=
  entries.filterMap fun entry => if standsFor names entry.1 name then some entry.2 else none

/-- The entries have keys of a record, and no two of them stand for one field. -/
def areRecord (names : List String) (entries : Mapping) : Bool :=
  entries.all (fun entry => isKey entry.1) &&
    names.all fun name => (values names entries name).length ≤ 1

/-- The value of a field. -/
def value (names : List String) (entries : Mapping) (name : String) : Tree :=
  (values names entries name).headD .null

end Fields

namespace Tree

/-- The text of an optional scalar: nothing, or what the scalar reads as. -/
def optionalScalar? : Tree → Option (Option String)
  | .null => some none
  | tree => (scalarText? tree).map some

/-- The text of an optional string. -/
def optionalString? : Tree → Option (Option String)
  | .null => some none
  | .string text => some (some text)
  | _ => none

end Tree

end BuildManifest
