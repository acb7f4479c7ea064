import BuildManifest.Tree.Basic

/-!
# The strokes of writing a tree

A tree is written stroke by stroke: scalars, and where collections begin and end.  A mapping of one
entry looks like a tag with its content until its key is known, so its beginning waits for the key.
A key that has to wait in turn takes the place of the mapping around it, whose beginning is never
written; its end is then out of place.

## What is here

* `Stroke`, `strokes` — what is written of a tree, in order.
* `Slot`, `WriteFault.first` — the first stroke that does not fit where it stands.
-/

set_option autoImplicit false

namespace BuildManifest.Yaml

/-- One stroke. -/
inductive Stroke where
  /-- A scalar. -/
  | scalar
  /-- A sequence begins. -/
  | openSequence
  /-- A sequence ends. -/
  | closeSequence
  /-- A mapping begins. -/
  | openMapping
  /-- A mapping ends. -/
  | closeMapping
  /-- A tag directly inside a tag. -/
  | nestedTag
  deriving DecidableEq, Repr

/-- Whether the beginning of a node waits for what follows: a tag, or a mapping of one entry. -/
def waits : Tree → Bool
  | .tagged _ _ => true
  | .mapping entries => entries.length == 1
  | _ => false

/-- Whether the beginning of a mapping with these entries is lost to its first key. -/
def losesStart (entries : List (Tree × Tree)) : Bool :=
  entries.length == 1 && entries.any fun entry => waits entry.1

mutual

/-- The strokes of a tree.  Directly under a tag, a mapping begins at once. -/
def strokes (underTag : Bool) : Tree → List Stroke
  | .tagged _ content => if underTag then [.nestedTag] else strokes true content
  | .sequence items => .openSequence :: itemStrokes items ++ [.closeSequence]
  | .mapping entries =>
    (if !underTag && losesStart entries then [] else [.openMapping]) ++
      (entryStrokes entries ++ [.closeMapping])
  | _ => [.scalar]

/-- The strokes of items. -/
def itemStrokes : List Tree → List Stroke
  | [] => []
  | item :: rest => strokes false item ++ itemStrokes rest

/-- The strokes of keys and values. -/
def entryStrokes : List (Tree × Tree) → List Stroke
  | [] => []
  | (key, value) :: rest => strokes false key ++ (strokes false value ++ entryStrokes rest)

end

/-! ## Strokes out of place -/

/-- What comes next in an open collection. -/
inductive Slot where
  | item
  | key
  | value
  deriving DecidableEq, Repr

/-- The slots of the open collections, innermost first, once a node has been written. -/
def Slot.advance : List Slot → List Slot
  | .key :: outer => .value :: outer
  | .value :: outer => .key :: outer
  | slots => slots

/-- Why a tree cannot be written. -/
inductive WriteFault where
  /-- A tag directly inside a tag. -/
  | nestedTag
  /-- A collection ends where a node is expected. -/
  | missingNode
  /-- A collection ends although none is open. -/
  | nothingOpen
  deriving DecidableEq, Repr

namespace WriteFault

/-- The wording of a fault. -/
def message : WriteFault → String
  | .nestedTag => "serializing nested enums in YAML is not supported yet"
  | .missingNode => "expected SCALAR, SEQUENCE-START, MAPPING-START, or ALIAS"
  | .nothingOpen => "expected DOCUMENT-START or STREAM-END"

/-- The first fault of strokes, given the slots of the open collections. -/
def first : List Slot → List Stroke → Option WriteFault
  | _, [] => none
  | _, .nestedTag :: _ => some .nestedTag
  | slots, .scalar :: rest => first (Slot.advance slots) rest
  | slots, .openSequence :: rest => first (.item :: slots) rest
  | slots, .openMapping :: rest => first (.key :: slots) rest
  | [], .closeSequence :: _ | [], .closeMapping :: _ => some .nothingOpen
  | .item :: outer, .closeSequence :: rest => first (Slot.advance outer) rest
  | .key :: outer, .closeMapping :: rest => first (Slot.advance outer) rest
  | _, _ => some .missingNode

end WriteFault

end BuildManifest.Yaml
