import BuildManifest.Json
import BuildManifest.Package.Basic

/-!
# Writing packages

A package as a JSON text.
-/

set_option autoImplicit false

namespace BuildManifest.Package

/-- Texts by their labels. -/
def textsTree (texts : Labelled String) : Tree :=
  .mapping (texts.entries.map fun entry => (.string entry.1, .string entry.2))

/-- The install locations with their selectors, ordered by location. -/
def installerPaths : Labelled String :=
  .ofList (InstallCategory.all.map fun category => (category.path, category.selector))

/-- A package as a tree. -/
def toTree (package : Package) : Tree :=
  .mapping [
    (.string "name", .string "drupal/drupal-project"),
    (.string "description", .string "Project converted from a makespec build manifest"),
    (.string "type", .string "project"),
    (.string "repositories", .sequence [
      .mapping [(.string "type", .string "composer"),
        (.string "url", .string package.repositoryUrl)]]),
    (.string "require", textsTree package.require),
    (.string "minimum-stability", .string "dev"),
    (.string "prefer-stable", .bool true),
    (.string "extra", .mapping [
      (.string "installer-paths", .mapping (installerPaths.entries.map fun entry =>
        (.string entry.1, .sequence [.string entry.2]))),
      (.string "patches", .mapping (package.patches.entries.map fun entry =>
        (.string entry.1, textsTree entry.2)))])]

/-- A package as a JSON text. -/
def toJson (package : Package) : Except JsonError String := printJson package.toTree

end BuildManifest.Package
