import BuildManifest.Check.Violation
import BuildManifest.Check.Warning

/-!
# Pruning

A manifest restricted to the entries that a user selects.
-/

set_option autoImplicit false

namespace BuildManifest

/-- The names of the entries to keep. -/
structure Selection where
  /-- The projects to keep. -/
  projects : Names := .empty
  /-- The libraries to keep. -/
  libraries : Names := .empty

namespace Selection

/-- The name that keeps every entry of a section. -/
def wildcard : String := "*"

/-- The selection of everything. -/
def everything : Selection := ⟨.ofNames [wildcard], .ofNames [wildcard]⟩

/-- The names to keep in a section. -/
def names (selection : Selection) : SectionKind → Names
  | .projects => selection.projects
  | .libraries => selection.libraries

/-- Whether the entry of a name is kept. -/
def keeps (selection : Selection) (kind : SectionKind) (name : String) : Bool :=
  (selection.names kind).contains wildcard || (selection.names kind).contains name

end Selection

namespace Manifest

/-- The manifest with the selected entries only. -/
def restrict (manifest : Manifest) (selection : Selection) : Manifest :=
  { manifest with
    projects := manifest.projects.retain fun name _ => selection.keeps .projects name
    libraries := manifest.libraries.retain fun name _ => selection.keeps .libraries name }

/-- Whether there is no entry. -/
def hasNoEntries (manifest : Manifest) : Bool :=
  manifest.projects.isEmpty && manifest.libraries.isEmpty

/-- The manifest with the selected entries, of which one has to exist unless `force` is set. -/
def prune (manifest : Manifest) (selection : Selection) (force : Bool) :
    Except Violation Manifest :=
  let restricted := manifest.restrict selection
  if restricted.hasNoEntries && !force then .error .emptyAfterPrune else .ok restricted

/-- A warning for each selected name of a section that has no entry. -/
def missingWarnings (manifest : Manifest) (selection : Selection) (kind : SectionKind) :
    List Warning :=
  ((selection.names kind).labels.filter fun name =>
    name != Selection.wildcard && !(manifest.sectionOf kind).contains name).map
    (.notInManifest kind)

/-- What to say about a pruning. -/
def pruneWarnings (manifest : Manifest) (selection : Selection) (force : Bool) : List Warning :=
  SectionKind.all.flatMap (manifest.missingWarnings selection) ++
    if (manifest.restrict selection).hasNoEntries && force then [.emptyForced] else []

end Manifest

end BuildManifest
