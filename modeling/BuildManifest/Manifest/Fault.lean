import BuildManifest.Manifest.Basic
import BuildManifest.Text.Quoted

/-!
# Why a tree is no manifest

The causes for which a tree cannot be read as a manifest or a part of one, and their wording.

## What is here

* `AttributeFault` — what is wrong with the attributes of an entry, a download or a patch.
* `ReferenceFault`, `FieldFault`, `EntryFault` — what is wrong with a reference, with a key of the
  manifest, and with an entry of a section.
* `ManifestError` — where the fault is.
-/

set_option autoImplicit false

namespace BuildManifest

/-- Why attributes cannot be read. -/
inductive AttributeFault where
  /-- Attributes are a mapping, and this is none. -/
  | notAttributes (found : Tree)
  /-- The name of an attribute is a string, and this is none. -/
  | notName (found : Tree)
  /-- An attribute is given twice. -/
  | repeated (name : String)
  /-- An attribute that is not interpreted is given twice. -/
  | repeatedExtra (name : String)
  /-- A tag stands where none may. -/
  | tagged
  /-- A text was wanted. -/
  | notText
  /-- A truth value was wanted, and this word is none. -/
  | notBooleanWord (word : String)
  /-- A truth value was wanted. -/
  | notBoolean
  /-- Patches were wanted. -/
  | notPatches
  /-- A download was wanted. -/
  | notDownload
  /-- A patch was wanted. -/
  | notPatch
  deriving Repr

namespace AttributeFault

/-- Every digit before the point, and no exponent. -/
def positionalDecimal : DecimalNotation := ⟨400, 400, ".0", "e", ""⟩

/-- A number as a message shows it. -/
def showNumber : Number → String
  | .int value => "integer \x60" ++ toString value ++ "\x60"
  | .float value =>
    let digits :=
      if value.isNaN then "NaN"
      else if value.isInfinite then if value.isNegative then "-inf" else "inf"
      else positionalDecimal.render value
    "floating point \x60" ++ digits ++ "\x60"

/-- A value as a message shows it. -/
def shown : Tree → String
  | .null => "unit value"
  | .bool value => "boolean \x60" ++ Tree.boolWord value ++ "\x60"
  | .number value => showNumber value
  | .string value => "string " ++ Text.quoted value
  | .sequence _ => "sequence"
  | .mapping _ => "map"
  | .tagged _ _ => "enum"

/-- The wording of the fault. -/
def message : AttributeFault → String
  | .notAttributes found => "invalid type: " ++ shown found ++ ", expected struct EntrySpec"
  | .notName found => "invalid type: " ++ shown found ++ ", expected field identifier"
  | .repeated name => "duplicate field \x60" ++ name ++ "\x60"
  | .repeatedExtra name => "duplicate entry with key " ++ Text.quoted name
  | .tagged => "untagged and internally tagged enums do not support enum input"
  | .notText => "expected a string or number"
  | .notBooleanWord word => "expected a boolean, found '" ++ word ++ "'"
  | .notBoolean => "expected a boolean"
  | .notPatches => "expected a list or mapping of patches"
  | .notDownload => "data did not match any variant of untagged enum DownloadRepr"
  | .notPatch => "data did not match any variant of untagged enum PatchSpec"

end AttributeFault

/-- Why references cannot be read. -/
inductive ReferenceFault where
  /-- A reference to a checkout names no file of it. -/
  | noMakefile
  /-- A reference to a checkout does not say what to check out. -/
  | noDownload (makefile : String)
  /-- What to check out has no address. -/
  | noUrl (makefile : String)
  /-- What to check out cannot be read. -/
  | download (fault : AttributeFault)
  /-- This is no reference. -/
  | notReference (found : String)
  /-- This is no list of references. -/
  | notList (found : String)
  deriving Repr

/-- The wording of the fault. -/
def ReferenceFault.message : ReferenceFault → String
  | .noMakefile => "VCS include requires a 'makefile' attribute"
  | .noDownload makefile => "VCS include '" ++ makefile ++ "' requires a 'download' attribute"
  | .noUrl makefile => "VCS include '" ++ makefile ++ "' has no download url"
  | .download fault => fault.message
  | .notReference found => "expected a path or a VCS mapping, found '" ++ found ++ "'"
  | .notList found => "expected a list of references, found '" ++ found ++ "'"

/-- Why the value of a key cannot be read. -/
inductive FieldFault where
  /-- A manifest is a mapping. -/
  | notMapping
  /-- The platform version is a text. -/
  | notVersion
  /-- The version of the format is a whole number below the bound. -/
  | notInteger (found : String)
  /-- A section is a mapping or a list. -/
  | notEntries
  /-- Defaults are a mapping of sections. -/
  | notSections
  /-- The defaults of a section cannot be read. -/
  | attributes (fault : AttributeFault)
  deriving Repr

/-- The wording of the fault. -/
def FieldFault.message : FieldFault → String
  | .notMapping => "manifest must be a mapping"
  | .notVersion => "expected a version string"
  | .notInteger found => "expected an integer, found '" ++ found ++ "'"
  | .notEntries => "expected a mapping or list of entries"
  | .notSections => "expected a mapping of sections"
  | .attributes fault => fault.message

/-- Why an entry of a section cannot be read. -/
inductive EntryFault where
  /-- It is neither attributes nor a version nor nothing. -/
  | notEntry
  /-- Its attributes cannot be read. -/
  | attributes (fault : AttributeFault)
  deriving Repr

/-- The wording of the fault. -/
def EntryFault.message : EntryFault → String
  | .notEntry => "expected attributes or a version string"
  | .attributes fault => fault.message

/-- Why there is no manifest, and where the fault is. -/
inductive ManifestError where
  /-- The text cannot be read. -/
  | parse (error : ParseError)
  /-- The value of a key cannot be read. -/
  | field (key : String) (fault : FieldFault)
  /-- An entry of a section cannot be read. -/
  | entry (kind : SectionKind) (name : String) (fault : EntryFault)
  /-- A reference cannot be read. -/
  | reference (fault : ReferenceFault)
  deriving Repr

/-- The message of the error. -/
def ManifestError.message : ManifestError → String
  | .parse error => "failed to parse manifest: " ++ error.message
  | .field key fault => "invalid value for '" ++ key ++ "': " ++ fault.message
  | .entry kind name fault =>
    "invalid " ++ kind.name ++ " entry '" ++ name ++ "': " ++ fault.message
  | .reference fault => "invalid include reference: " ++ fault.message

end BuildManifest
