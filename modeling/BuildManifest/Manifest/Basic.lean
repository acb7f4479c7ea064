import BuildManifest.Dialect
import BuildManifest.Manifest.Reference
import BuildManifest.Manifest.Section
import BuildManifest.Text.Numeral

/-!
# Manifests

A build manifest in its typed form.

## What is here

* `Manifest` — the platform version, the two sections, the references and the defaults.
* `Manifest.coreMajor?` — the number of the platform's major version.
-/

set_option autoImplicit false

namespace BuildManifest

/-- A build manifest. -/
structure Manifest where
  /-- The platform version, `MAJOR.x` once validated. -/
  core : Option String := none
  /-- The exact release of the platform that the author asked for. -/
  coreRelease : Option String := none
  /-- The version of the manifest format. -/
  api : Option Nat := none
  /-- The projects. -/
  projects : Section := {}
  /-- The libraries. -/
  libraries : Section := {}
  /-- The manifests this one builds on. -/
  includes : List Reference := []
  /-- The manifests that change this one. -/
  overrides : List Reference := []
  /-- The attributes that the entries of a section have unless they say otherwise. -/
  defaults : Labelled Entry := .empty
  /-- The dialect it was written in. -/
  format : Option Dialect := none
  deriving Repr, Inhabited

/-- The bound on numbers that manifests and settings give for a version. -/
def versionBound : Nat := Nat.pow 2 32

namespace Manifest

/-- A section of the manifest. -/
def sectionOf (manifest : Manifest) : SectionKind → Section
  | .projects => manifest.projects
  | .libraries => manifest.libraries

/-- Change a section of the manifest. -/
def updateSection (manifest : Manifest) (change : Section → Section) : SectionKind → Manifest
  | .projects => { manifest with projects := change manifest.projects }
  | .libraries => { manifest with libraries := change manifest.libraries }

/-- The number before the first point of the platform version. -/
def coreMajor? (manifest : Manifest) : Option Nat :=
  manifest.core.bind fun core =>
    Text.readNatBelow versionBound (core.toList.takeWhile (· != '.'))

end Manifest

end BuildManifest
