import BuildManifest.Manifest.Basic
import BuildManifest.Package.Basic

/-!
# From manifests to packages

Every project and library of a manifest becomes a requirement of a package.

## What is here

* `coreRequirement`, `projectRequirement?` — the required version of the platform and of a project.
* `Package.addProject`, `Package.addLibrary` — one entry more.
* `Manifest.toPackage` — the whole manifest.
-/

set_option autoImplicit false

namespace BuildManifest

namespace Package

/-- What stands for a version that has to be looked up by hand. -/
def unknownVersion : String := "Enter correct project name and version number"

/-- The major version of the platform when the manifest gives none. -/
def assumedMajor : Nat := 8

/-- The last major version of the platform whose projects repeat it in their versions. -/
def lastPrefixingMajor : Nat := 7

/-- The package of the platform. -/
def corePackage (major : Nat) : String :=
  if major ≤ lastPrefixingMajor then "drupal/drupal" else "drupal/core"

/-- A text in which another text stands for every `x`. -/
def replaceWildcards (text replacement : String) : String :=
  String.join (text.toList.map fun c => if c = 'x' then replacement else String.singleton c)

/-- The required version of the platform. -/
def coreRequirement (version : String) : String := replaceWildcards version "*"

/-- The version, branch or tag that a project asks for, and the revision of a branch or tag. -/
def requestedState? (entry : Entry) : Option (String × Option String) :=
  match entry.version with
  | some version => some (version, none)
  | none =>
    entry.download.bind fun download =>
      (download.branch <|> download.tag).map fun state => (state, download.revision)

/-- The required version of a project, if the manifest says anything about it. -/
def projectRequirement? (entry : Entry) (major : Nat) : Option String :=
  (requestedState? entry).map fun (state, revision) =>
    let version := replaceWildcards state "0"
    let version :=
      if major ≤ lastPrefixingMajor then toString major ++ "." ++ version else version
    match revision with
    | some revision => version ++ "#" ++ revision
    | none => version

/-- The description of a patch: its label, unless that is only a number. -/
def patchDescription (name label : String) : String :=
  if label.toList.all Char.isDigit then
    "Enter " ++ name ++ " patch #" ++ label ++ " description here"
  else label

/-- The name under which a library is required. -/
def libraryName (name : String) : String := "Verify project name: " ++ name

/-- The name under which a project is required. -/
def projectName (major : Nat) (name : String) (entry : Entry) : String :=
  if entry.isCore name then corePackage major else "drupal/" ++ name

/-- One requirement more. -/
def requiring (package : Package) (name version : String) : Package :=
  { package with require := package.require.insert name version }

/-- One patch more. -/
def patching (package : Package) (name label url : String) : Package :=
  let known := (package.patches.get? name).getD .empty
  { package with
    patches := package.patches.insert name (known.insert (patchDescription name label) url) }

/-- The requirement of one project more. -/
def requireProject (package : Package) (major : Nat) (name : String) (entry : Entry) : Package :=
  if entry.isCore name then
    match entry.version with
    | some version => package.requiring (corePackage major) (coreRequirement version)
    | none => package
  else
    package.requiring (projectName major name entry)
      ((projectRequirement? entry major).getD unknownVersion)

/-- One project more. -/
def addProject (major : Nat) (package : Package) (project : String × Entry) : Package :=
  let (name, entry) := project
  entry.patches.entries.foldl
    (fun done patch => done.patching (projectName major name entry) patch.1 patch.2.url)
    (package.requireProject major name entry)

/-- One library more. -/
def addLibrary (package : Package) (library : String × Entry) : Package :=
  package.requiring (libraryName library.1) (library.2.version.getD unknownVersion)

/-- What every package requires. -/
def installers : Labelled String :=
  .ofList [("composer/installers", "^1.0.20"), ("cweagans/composer-patches", "~1.0")]

/-- The package of a platform, before any project is added. -/
def ofCore (major : Nat) (core : Option String) : Package :=
  let start : Package :=
    ⟨"https://packages.drupal.org/" ++ toString major, installers, .empty⟩
  match core with
  | some version => start.requiring (corePackage major) (coreRequirement version)
  | none => start

end Package

/-- The package that requires what the manifest lists. -/
def Manifest.toPackage (manifest : Manifest) : Package :=
  let major := manifest.coreMajor?.getD Package.assumedMajor
  let start := Package.ofCore major manifest.core
  let withProjects := manifest.projects.entries.foldl (Package.addProject major) start
  manifest.libraries.entries.foldl Package.addLibrary withProjects

end BuildManifest
