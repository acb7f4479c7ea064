import BuildManifest.Tree.KeyText
import BuildManifest.Tree.Merge

/-!
# The canonical shape of a manifest

Shorthand entries of a manifest become names with attributes before manifests are
merged, so that the same entry has the same key in all of them.

## What is here

* `normalizeAttributes` — the patches of an entry under one key, its download as a mapping.
* `expandEntry` — an entry under its name: nothing, a version or attributes.
* `normalizeSection` — a list element that is a name becomes an entry of that name, unless there
  is one already.
* `normalize` — both sections of a manifest.
-/

set_option autoImplicit false

namespace BuildManifest.Tree

/-- The keys of a manifest that hold named entries. -/
def entrySections : List String := ["projects", "libraries"]

/-- Fold `patch` into `patches`, which wins where both set a label. -/
def foldPatch (attributes : Mapping) : Mapping :=
  match Mapping.get? attributes "patch" with
  | none => attributes
  | some patch =>
    let others := Mapping.erase attributes (.string "patch")
    match Mapping.get? others "patches" with
    | none => Mapping.insert others (.string "patches") patch
    | some patches =>
      Mapping.insert (Mapping.erase others (.string "patches")) (.string "patches")
        (merge patch.indexed patches.indexed)

/-- A download that is a bare text is its `url`. -/
def expandDownload (attributes : Mapping) : Mapping :=
  match Mapping.get? attributes "download" with
  | some (.string url) =>
    Mapping.insert attributes (.string "download") (.mapping [(.string "url", .string url)])
  | _ => attributes

/-- The attributes of an entry in their canonical shape. -/
def normalizeAttributes (attributes : Mapping) : Mapping := expandDownload (foldPatch attributes)

/-- An entry under its name: attributes, nothing, or its version. -/
def expandEntry : Tree → Tree
  | .mapping attributes => .mapping (normalizeAttributes attributes)
  | .null => .mapping []
  | value =>
    match scalarText? value with
    | some version => .mapping [(.string "version", .string version)]
    | none => value

/-- The names that a section declares as keys. -/
def declaredNames (entries : Mapping) : List String :=
  ((Mapping.keys entries).filter fun key => !isIndexKey key).map keyText

/-- The entries of a section under construction, and the names that have been given one. -/
structure SectionDraft where
  /-- The entries so far. -/
  entries : Mapping := []
  /-- Their names. -/
  emitted : List String := []

/-- Carry over one entry. -/
def SectionDraft.add (declared : List String) (draft : SectionDraft) (entry : Tree × Tree) :
    SectionDraft :=
  let (key, value) := entry
  if isIndexKey key then
    match value.text? with
    | some name =>
      if declared.contains name || draft.emitted.contains name then
        { draft with entries := Mapping.insert draft.entries key value }
      else
        { entries := Mapping.insert draft.entries (.string name) (.mapping [])
          emitted := name :: draft.emitted }
    | none => { draft with entries := Mapping.insert draft.entries key value }
  else
    { entries := Mapping.insert draft.entries key (expandEntry value)
      emitted := keyText key :: draft.emitted }

/-- A section in its canonical shape. -/
def normalizeSection (entries : Tree) : Tree :=
  match entries.indexed with
  | .mapping entries =>
    .mapping (entries.foldl (SectionDraft.add (declaredNames entries)) {}).entries
  | other => other

/-- Change the value of a key, if it has one. -/
def changeKey (change : Tree → Tree) (root : Mapping) (name : String) : Mapping :=
  match Mapping.get? root name with
  | some value => Mapping.insert root (.string name) (change value)
  | none => root

/-- A manifest in its canonical shape. -/
def normalize : Tree → Tree
  | .mapping root => .mapping (entrySections.foldl (changeKey normalizeSection) root)
  | tree => tree

end BuildManifest.Tree
