import BuildManifest.Manifest.Labelled

/-!
# Packages

The description of a package that requires what a manifest lists.

## What is here

* `Package` — requirements, patches and where things are installed.
* `InstallCategory` — the kinds of packages and their install locations.
-/

set_option autoImplicit false

namespace BuildManifest

/-- The kinds of packages that are installed at places of their own. -/
inductive InstallCategory where
  | core
  | contributedModule
  | customModule
  | contributedTheme
  | customTheme
  | contributedProfile
  | library
  | toolExtension
  deriving DecidableEq, Repr

namespace InstallCategory

/-- All kinds. -/
def all : List InstallCategory :=
  [.core, .contributedModule, .customModule, .contributedTheme, .customTheme,
    .contributedProfile, .library, .toolExtension]

/-- The place below the root, where `name` stands for the name of the package. -/
def path : InstallCategory → String
  | .core => "web/core"
  | .contributedModule => "web/modules/contrib/\x7b$name\x7d"
  | .customModule => "web/modules/custom/\x7b$name\x7d"
  | .contributedTheme => "web/themes/contrib/\x7b$name\x7d"
  | .customTheme => "web/themes/custom/\x7b$name\x7d"
  | .contributedProfile => "web/profiles/contrib/\x7b$name\x7d"
  | .library => "web/libraries/\x7b$name\x7d"
  | .toolExtension => "drush/contrib/\x7b$name\x7d"

/-- The selector of the packages that are installed there. -/
def selector : InstallCategory → String
  | .core => "type:drupal-core"
  | .contributedModule => "type:drupal-module"
  | .customModule => "type:drupal-custom-module"
  | .contributedTheme => "type:drupal-theme"
  | .customTheme => "type:drupal-custom-theme"
  | .contributedProfile => "type:drupal-profile"
  | .library => "type:drupal-library"
  | .toolExtension => "type:drupal-drush"

end InstallCategory

/-- A package that requires what a manifest lists. -/
structure Package where
  /-- Where packages are looked up. -/
  repositoryUrl : String
  /-- The versions that are required, by name. -/
  require : Labelled String
  /-- The addresses of the patches, by name and description. -/
  patches : Labelled (Labelled String)
  deriving Repr

end BuildManifest
