import BuildManifest.Check.Warning

/-!
# Applying defaults

The defaults of a section fill what its entries leave open.  An attribute that an entry sets is
never replaced.
-/

set_option autoImplicit false

namespace BuildManifest.Manifest

/-- Fill the entries of a section, in each of which `defaults` replaces nothing. -/
def fillSection (manifest : Manifest) (defaults : Entry) (kind : SectionKind) : Manifest :=
  manifest.updateSection (fun s => s.map fun _ entry => entry.fill defaults) kind

/-- Fill the section of a name, if there is one. -/
def fillNamed (manifest : Manifest) (name : String) (defaults : Entry) : Manifest :=
  match SectionKind.ofName? name with
  | some kind => manifest.fillSection defaults kind
  | none => manifest

/-- Fill every section that has defaults. -/
def applyDefaults (manifest : Manifest) : Manifest :=
  manifest.defaults.entries.foldl (fun m entry => m.fillNamed entry.1 entry.2) manifest

/-- A warning for the defaults of each section that does not exist. -/
def defaultsWarnings (manifest : Manifest) : List Warning :=
  (manifest.defaults.labels.filter fun name => (SectionKind.ofName? name).isNone).map
    .unknownDefaults

end BuildManifest.Manifest
