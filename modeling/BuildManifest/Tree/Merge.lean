import BuildManifest.Tree.Scalar

/-!
# Merging trees

Two trees are merged key by key: where both hold a mapping the merge holds both, elsewhere the
second tree wins unless it holds nothing.

## What is here

* `Tree.merge base top` — the merge; the keys of `base` come first, in their order.
* `Tree.coreFirst` — the project that is the platform's core moved in front of the others.
-/

set_option autoImplicit false

namespace BuildManifest

namespace Tree

mutual

/-- Lay `top` on top of `base`. -/
def merge (base : Tree) : Tree → Tree
  | .null => base
  | .mapping top =>
    match base with
    | .mapping entries => .mapping (mergeEntries entries top)
    | _ => .mapping top
  | top => top

/-- Lay the entries of `top` on top of those of `base`, one after the other. -/
def mergeEntries (base : Mapping) : List (Tree × Tree) → Mapping
  | [] => base
  | (key, value) :: rest =>
    mergeEntries
      (match Mapping.find? base key with
        | some current => Mapping.insert base key (merge current value)
        | none => Mapping.insert base key value)
      rest

end

/-- The name of the project that is always the platform's core. -/
def coreProject : String := "drupal"

/-- Whether an entry of the projects is the platform's core: by its name, or by its type. -/
def isCoreEntry (key value : Tree) : Bool :=
  key.text? == some coreProject ||
    ((value.entries?.bind (Mapping.get? · "type")).bind text?) == some "core"

/-- Move the first core entry to the front. -/
def entriesCoreFirst (entries : Mapping) : Mapping :=
  match List.find? (fun entry => isCoreEntry entry.1 entry.2) entries with
  | some core => core :: entries.eraseP fun entry => isCoreEntry entry.1 entry.2
  | none => entries

/-- Move the core project of a manifest to the front of its projects. -/
def coreFirst (root : Mapping) : Mapping :=
  match Mapping.get? root "projects" with
  | some (.mapping projects) =>
    Mapping.insert root (.string "projects") (.mapping (entriesCoreFirst projects))
  | _ => root

end Tree

end BuildManifest
