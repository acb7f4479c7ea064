import BuildManifest.Manifest.Entry.OfTree
import BuildManifest.Manifest.Reference.OfTree
import BuildManifest.Tree.Normalize

/-!
# Reading manifests

A tree as a manifest.  The keys are read in the order of the fields of `Manifest`, whatever the
order in the tree, and the first fault is reported.

## What is here

* `Section.ofTree` — the entries of a section, with the shorthands of both dialects.
* `Manifest.ofTree` — a manifest from a tree.
* `parseManifest` — a manifest from a text, normalized.
-/

set_option autoImplicit false

namespace BuildManifest

namespace Section

/-- Read one entry: attributes, nothing, a name under an index, or a version under a name. -/
def readEntry (key : Tree) : Tree → Except EntryFault (String × Entry)
  | .mapping attributes =>
    match Entry.ofMapping attributes with
    | .ok entry => .ok (key.keyText, entry)
    | .error fault => .error (.attributes fault)
  | .null => .ok (key.keyText, {})
  | value =>
    match value.scalarText? with
    | none => .error .notEntry
    | some text =>
      .ok (if key.isIndexKey then (text, {}) else (key.keyText, Entry.ofVersion text))

/-- Read entries in order. -/
def readEntries (kind : SectionKind) : Mapping → Except ManifestError (List (String × Entry))
  | [] => .ok []
  | (key, value) :: rest =>
    match readEntry key value with
    | .error fault => .error (.entry kind key.keyText fault)
    | .ok entry => (readEntries kind rest).map (entry :: ·)

/-- Read a section. -/
def ofTree (kind : SectionKind) (tree : Tree) : Except ManifestError Section :=
  match tree.indexed with
  | .null => .ok {}
  | .mapping entries => (readEntries kind entries).map ofList
  | _ => .error (.field kind.name .notEntries)

end Section

namespace Manifest

/-- The value of a key, or nothing. -/
def valueOf (root : Mapping) (key : String) : Tree := (Mapping.get? root key).getD .null

/-- Read the platform version. -/
def readCore (tree : Tree) : Except ManifestError (Option String) :=
  match tree.optionalScalar? with
  | some text => .ok text
  | none => .error (.field "core" .notVersion)

/-- The version of the format that a number or a text gives. -/
def apiVersion? : Tree → Option Nat
  | .number value => value.natural?.filter (· < versionBound)
  | .string text => Text.readNatBelow versionBound (Text.trim text.toList)
  | _ => none

/-- Read the version of the format. -/
def readApi : Tree → Except ManifestError (Option Nat)
  | .null => .ok none
  | tree =>
    match apiVersion? tree with
    | some version => .ok (some version)
    | none => .error (.field "api" (.notInteger tree.keyText))

/-- Read the references of a key. -/
def readReferences (tree : Tree) : Except ManifestError (List Reference) :=
  match Reference.listOfTree tree with
  | .ok references => .ok references
  | .error fault => .error (.reference fault)

/-- Read the defaults of one section after the other. -/
def readSectionDefaults (done : Labelled Entry) :
    Mapping → Except ManifestError (Labelled Entry)
  | [] => .ok done
  | (key, value) :: rest =>
    match Entry.ofTree value with
    | .ok entry => readSectionDefaults (done.insert key.keyText entry) rest
    | .error fault => .error (.field ("defaults." ++ key.keyText) (.attributes fault))

/-- Read the defaults. -/
def readDefaults : Tree → Except ManifestError (Labelled Entry)
  | .null => .ok .empty
  | .mapping sections => readSectionDefaults .empty sections
  | _ => .error (.field "defaults" .notSections)

/-- Read the keys of a manifest. -/
def ofMapping (root : Mapping) (format : Option Dialect) : Except ManifestError Manifest := do
  let core ← readCore (valueOf root "core")
  let api ← readApi (valueOf root "api")
  let projects ← Section.ofTree .projects (valueOf root "projects")
  let libraries ← Section.ofTree .libraries (valueOf root "libraries")
  let includes ← readReferences (valueOf root "includes")
  let overrides ← readReferences (valueOf root "overrides")
  let defaults ← readDefaults (valueOf root "defaults")
  return { core, api, projects, libraries, includes, overrides, defaults, format }

/-- Read a manifest. -/
def ofTree (tree : Tree) (format : Option Dialect) : Except ManifestError Manifest :=
  match tree with
  | .mapping root => ofMapping root format
  | .null => .ok { format }
  | _ => .error (.field "<root>" .notMapping)

end Manifest

/-- Read a text as a manifest, without following its references. -/
def parseManifest (text : String) : Except ManifestError Manifest :=
  match parseDetected text with
  | .ok (tree, dialect) => Manifest.ofTree tree.normalize (some dialect)
  | .error error => .error (.parse error)

end BuildManifest
