import BuildManifest.Manifest.Download
import BuildManifest.Manifest.Labelled
import BuildManifest.Tree.Merge

/-!
# Entries

The attributes of one project or library.

## What is here

* `Entry` — the attributes this library interprets, and the others as a mapping.
* `Entry.fill` — what an entry leaves open is taken from defaults: attribute by attribute, the
  download field by field, the patches label by label, and the others by merging.
* `Entry.pathAttributes` — the attributes that name a place below the install root.
-/

set_option autoImplicit false

namespace BuildManifest

/-- The attributes of a project or library. -/
structure Entry where
  /-- The version to install. -/
  version : Option String := none
  /-- What the entry is: `core`, `module`, `theme` and so on. -/
  kind : Option String := none
  /-- Where its sources are obtained. -/
  download : Option Download := none
  /-- The directory below the usual place. -/
  subdir : Option String := none
  /-- The name of its own directory. -/
  directoryName : Option String := none
  /-- The directory that holds all contributed projects. -/
  contribDestination : Option String := none
  /-- Where a library is installed. -/
  destination : Option String := none
  /-- The patches by their labels. -/
  patches : Labelled Patch := .empty
  /-- Whether the version control data are kept. -/
  workingCopy : Option Bool := none
  /-- Attributes that are not interpreted. -/
  extra : Mapping := []
  deriving Repr, Inhabited

namespace Entry

/-- The entry that sets a version only. -/
def ofVersion (version : String) : Entry := { version := some version }

/-- Whether the entry of that name is the platform's core. -/
def isCore (entry : Entry) (name : String) : Bool :=
  name == Tree.coreProject || entry.kind == some "core"

/-- The download that `own` gives, filled from `defaults`. -/
def fillDownload (own : Option Download) : Option Download → Option Download
  | none => own
  | some defaults => some ((own.getD {}).fill defaults)

/-- The attributes of `own` on top of those of `defaults`. -/
def fillExtra (own defaults : Mapping) : Mapping :=
  if defaults.isEmpty then own else Tree.mergeEntries defaults own

/-- What `own` leaves open is taken from `defaults`. -/
def fill (own defaults : Entry) : Entry where
  version := own.version <|> defaults.version
  kind := own.kind <|> defaults.kind
  download := fillDownload own.download defaults.download
  subdir := own.subdir <|> defaults.subdir
  directoryName := own.directoryName <|> defaults.directoryName
  contribDestination := own.contribDestination <|> defaults.contribDestination
  destination := own.destination <|> defaults.destination
  patches := own.patches.fill defaults.patches
  workingCopy := own.workingCopy <|> defaults.workingCopy
  extra := fillExtra own.extra defaults.extra

/-- The attributes that are set among the given ones. -/
def setAttributes (attributes : List (String × Option String)) : List (String × String) :=
  attributes.filterMap fun one => one.2.map fun value => (one.1, value)

/-- The attributes that name a place below the install root, by name. -/
def pathAttributes (entry : Entry) : List (String × String) :=
  setAttributes [("subdir", entry.subdir), ("directory_name", entry.directoryName),
    ("contrib_destination", entry.contribDestination), ("destination", entry.destination)]

end Entry

end BuildManifest
