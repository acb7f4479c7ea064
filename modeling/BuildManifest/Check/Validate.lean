import BuildManifest.Check.CoreVersion
import BuildManifest.Check.Defaults
import BuildManifest.Check.Path
import BuildManifest.Check.Violation

/-!
# Validation

A manifest is completed and then checked.  All violations are collected, so that one run reports
every problem.

## What is here

* `CheckOptions`, `Hook` — how strictly to check, and the user's own checks.
* `Manifest.completed` — the manifest with its version spelled out, its defaults applied, and no
  attribute that libraries do not have.
* `Manifest.violations` — what is wrong with it.
* `Manifest.validate` — completed, checked, and passed from hook to hook.
-/

set_option autoImplicit false

namespace BuildManifest

/-- The version of the manifest format that is supported unless another one is asked for. -/
def supportedApi : Nat := 2

/-- How strictly to check. -/
structure CheckOptions where
  /-- The supported version of the format. -/
  api : Nat := supportedApi
  /-- Only warn of another version, and of a manifest of which nothing is left. -/
  force : Bool := false
  deriving DecidableEq, Repr

/-- A check of the user's own.  It may change the manifest. -/
structure Hook where
  /-- The name that its failures are reported under. -/
  name : String
  /-- The manifest to go on with, or what is wrong. -/
  check : Manifest → Except String Manifest

namespace Manifest

/-! ## Completing -/

/-- The manifest with its platform version spelled out. -/
def withCoreBranch (manifest : Manifest) : Manifest :=
  match manifest.core.bind readCoreVersion with
  | some version =>
    { manifest with
      core := some version.branch
      coreRelease := version.release <|> manifest.coreRelease }
  | none => manifest

/-- The manifest with a version of the format. -/
def withApi (manifest : Manifest) (supported : Nat) : Manifest :=
  { manifest with api := manifest.api <|> some supported }

/-- The manifest whose libraries have no directory of contributed projects. -/
def withPlainLibraries (manifest : Manifest) : Manifest :=
  { manifest with
    libraries := manifest.libraries.map fun _ entry => { entry with contribDestination := none } }

/-- The manifest in the form that is checked. -/
def completed (manifest : Manifest) (options : CheckOptions) : Manifest :=
  ((manifest.withCoreBranch.withApi options.api).applyDefaults).withPlainLibraries

/-! ## Checking -/

/-- What is wrong with the platform version. -/
def coreViolations (manifest : Manifest) : List Violation :=
  match manifest.core with
  | none => [.missingAttribute "core"]
  | some text => if (readCoreVersion text).isSome then [] else [.badCoreVersion text]

/-- What is wrong with the version of the format. -/
def apiViolations (manifest : Manifest) (options : CheckOptions) : List Violation :=
  match manifest.api with
  | none => []
  | some found =>
    if found = options.api || options.force then [] else [.apiMismatch found options.api]

/-- What to say about the version of the format. -/
def apiWarnings (manifest : Manifest) (options : CheckOptions) : List Warning :=
  match manifest.api with
  | none => [.apiAssumed options.api]
  | some found =>
    if found ≠ options.api && options.force then [.apiForced found options.api] else []

/-- What is wrong with the paths of an entry. -/
def pathViolations (kind : SectionKind) (name : String) (entry : Entry) : List Violation :=
  (entry.pathAttributes.filter fun one => !isSafePath one.2).map fun one =>
    .unsafePath kind name one.1 one.2

/-- What is wrong with an entry after entries of the names `earlier`: its name, when it occurs for
the second time, and its paths. -/
def entryViolations (kind : SectionKind) (earlier : List String) (name : String) (entry : Entry) :
    List Violation :=
  (if earlier.count name = 1 then [.duplicateName kind name] else []) ++
    pathViolations kind name entry

/-- What is wrong with entries after entries of the names `earlier`. -/
def entriesViolations (kind : SectionKind) (earlier : List String) :
    List (String × Entry) → List Violation
  | [] => []
  | (name, entry) :: rest =>
    entryViolations kind earlier name entry ++ entriesViolations kind (name :: earlier) rest

/-- What is wrong with the sections. -/
def sectionViolations (manifest : Manifest) : List Violation :=
  SectionKind.all.flatMap fun kind =>
    entriesViolations kind [] (manifest.sectionOf kind).entries

/-- What is wrong with the manifest, hooks aside. -/
def violations (manifest : Manifest) (options : CheckOptions) : List Violation :=
  manifest.coreViolations ++ manifest.apiViolations options ++
    (manifest.completed options).sectionViolations

/-- What to say about the manifest. -/
def checkWarnings (manifest : Manifest) (options : CheckOptions) : List Warning :=
  manifest.apiWarnings options ++ manifest.defaultsWarnings

/-! ## Hooks -/

/-- Pass a manifest from hook to hook.  A hook that fails leaves it as it is. -/
def runHooks (manifest : Manifest) : List Hook → Manifest × List Violation
  | [] => (manifest, [])
  | hook :: rest =>
    match hook.check manifest with
    | .ok updated => runHooks updated rest
    | .error message =>
      let (last, failures) := runHooks manifest rest
      (last, .hookFailed hook.name message :: failures)

/-- The checked manifest, or everything that is wrong with it. -/
def validate (manifest : Manifest) (options : CheckOptions) (hooks : List Hook) :
    Except (List Violation) Manifest :=
  let (last, failures) := (manifest.completed options).runHooks hooks
  match manifest.violations options ++ failures with
  | [] => .ok last
  | found => .error found

end Manifest

end BuildManifest
