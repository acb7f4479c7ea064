import BuildManifest.Manifest.Basic

/-!
# Writing manifests

A manifest as a tree.  What is not set is left out, and so are empty sections and lists.

## What is here

* `Download.toTree`, `Patch.toTree`, `Entry.toTree`, `Section.toTree`, `Reference.toTree`,
  `Manifest.toTree` — the writers.
-/

set_option autoImplicit false

namespace BuildManifest

/-- The entry of a field that is set. -/
def fieldEntry (name : String) (value : Option Tree) : Mapping :=
  match value with
  | some tree => [(.string name, tree)]
  | none => []

/-- The entry of a field whose tree is not empty. -/
def filledEntry (name : String) (isEmpty : Bool) (tree : Tree) : Mapping :=
  if isEmpty then [] else [(.string name, tree)]

/-- A download as a mapping of its fields. -/
def Download.toTree (download : Download) : Tree :=
  .mapping <|
    fieldEntry "type" (download.kind.map fun kind => .string kind.text) ++
    fieldEntry "url" (download.url.map .string) ++
    fieldEntry "branch" (download.branch.map .string) ++
    fieldEntry "tag" (download.tag.map .string) ++
    fieldEntry "revision" (download.revision.map .string)

/-- A patch as a bare address or as a mapping of its fields. -/
def Patch.toTree : Patch → Tree
  | .bare url => .string url
  | .detailed url md5 =>
    .mapping ((.string "url", .string url) :: fieldEntry "md5" (md5.map .string))

/-- Labelled values as a mapping. -/
def Labelled.toTree {α : Type} (write : α → Tree) (labelled : Labelled α) : Tree :=
  .mapping (labelled.entries.map fun entry => (.string entry.1, write entry.2))

/-- An entry as a mapping of its attributes. -/
def Entry.toTree (entry : Entry) : Tree :=
  .mapping <|
    fieldEntry "version" (entry.version.map .string) ++
    fieldEntry "type" (entry.kind.map .string) ++
    fieldEntry "download" (entry.download.map Download.toTree) ++
    fieldEntry "subdir" (entry.subdir.map .string) ++
    fieldEntry "directory_name" (entry.directoryName.map .string) ++
    fieldEntry "contrib_destination" (entry.contribDestination.map .string) ++
    fieldEntry "destination" (entry.destination.map .string) ++
    filledEntry "patches" entry.patches.isEmpty (entry.patches.toTree Patch.toTree) ++
    fieldEntry "working_copy" (entry.workingCopy.map .bool) ++
    entry.extra

/-- A section as a mapping; a name that occurs twice is written twice. -/
def Section.toTree (s : Section) : Tree :=
  .mapping (s.entries.map fun entry => (.string entry.1, entry.2.toTree))

/-- A reference as a path or a mapping. -/
def Reference.toTree : Reference → Tree
  | .plain path => .string path
  | .checkout makefile download =>
    .mapping [(.string "makefile", .string makefile), (.string "download", download.toTree)]

/-- A manifest as a mapping; the dialect it was written in is not part of it. -/
def Manifest.toTree (manifest : Manifest) : Tree :=
  .mapping <|
    fieldEntry "core" (manifest.core.map .string) ++
    fieldEntry "core_release" (manifest.coreRelease.map .string) ++
    fieldEntry "api" (manifest.api.map fun version => .number (.int version)) ++
    filledEntry "projects" manifest.projects.isEmpty manifest.projects.toTree ++
    filledEntry "libraries" manifest.libraries.isEmpty manifest.libraries.toTree ++
    filledEntry "includes" manifest.includes.isEmpty
      (.sequence (manifest.includes.map Reference.toTree)) ++
    filledEntry "overrides" manifest.overrides.isEmpty
      (.sequence (manifest.overrides.map Reference.toTree)) ++
    filledEntry "defaults" manifest.defaults.isEmpty (manifest.defaults.toTree Entry.toTree)

end BuildManifest
