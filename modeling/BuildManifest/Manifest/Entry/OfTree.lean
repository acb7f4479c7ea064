import BuildManifest.Manifest.Download.OfTree

/-!
# Reading entries

The attributes of an entry are read in the order they are written in, so that the first fault is
the one reported.

## What is here

* `Attribute` — the attributes that are interpreted, and their names.
* `Entry.withAttribute` — an entry with one attribute read from a tree.
* `Entry.ofMapping`, `Entry.ofTree` — the readers.
-/

set_option autoImplicit false

namespace BuildManifest

/-- The attributes that are interpreted. -/
inductive Attribute where
  | version
  | kind
  | download
  | subdir
  | directoryName
  | contribDestination
  | destination
  | patches
  | workingCopy
  deriving DecidableEq, Repr

namespace Attribute

/-- The name of an attribute. -/
def name : Attribute → String
  | .version => "version"
  | .kind => "type"
  | .download => "download"
  | .subdir => "subdir"
  | .directoryName => "directory_name"
  | .contribDestination => "contrib_destination"
  | .destination => "destination"
  | .patches => "patches"
  | .workingCopy => "working_copy"

/-- All interpreted attributes, in the order they are written in. -/
def all : List Attribute :=
  [.version, .kind, .download, .subdir, .directoryName, .contribDestination, .destination,
    .patches, .workingCopy]

/-- The attribute of a name; patches also go by `patch`. -/
def ofName? (name : String) : Option Attribute :=
  if name = "patch" then some .patches else all.find? fun one => one.name == name

end Attribute

/-- The words for true and for false, in lower case. -/
def truthWords : List String × List String :=
  (["1", "true", "yes", "on"], ["", "0", "false", "no", "off"])

/-- Read a truth value: itself, a number other than zero, or a word. -/
def readTruth : Tree → Except AttributeFault (Option Bool)
  | .null => .ok none
  | .bool value => .ok (some value)
  | .number (.int value) => .ok (some (value != 0))
  | .number (.float value) => .ok (some (!value.isZero))
  | .string text =>
    let word := (Text.trimmed text).map Char.toLower
    if truthWords.1.contains word then .ok (some true)
    else if truthWords.2.contains word then .ok (some false)
    else .error (.notBooleanWord word)
  | _ => .error .notBoolean

/-- Read an optional text. -/
def readText (tree : Tree) : Except AttributeFault (Option String) :=
  match tree.optionalScalar? with
  | some text => .ok text
  | none => .error .notText

/-- Read an optional download. -/
def readDownload : Tree → Except AttributeFault (Option Download)
  | .null => .ok none
  | tree => (Download.ofTree tree).map some

namespace Entry

/-- The entry with an attribute read from a tree. -/
def withAttribute (entry : Entry) (value : Tree) : Attribute → Except AttributeFault Entry
  | .version => (readText value).map fun text => { entry with version := text }
  | .kind => (readText value).map fun text => { entry with kind := text }
  | .download => (readDownload value).map fun download => { entry with download }
  | .subdir => (readText value).map fun text => { entry with subdir := text }
  | .directoryName => (readText value).map fun text => { entry with directoryName := text }
  | .contribDestination =>
    (readText value).map fun text => { entry with contribDestination := text }
  | .destination => (readText value).map fun text => { entry with destination := text }
  | .patches => (Patch.allOfTree value).map fun patches => { entry with patches }
  | .workingCopy => (readTruth value).map fun truth => { entry with workingCopy := truth }

/-- Keep an attribute that is not interpreted. -/
def withExtra (entry : Entry) (name : String) (value : Tree) : Except AttributeFault Entry :=
  if value.hasTag then .error .tagged
  else .ok { entry with extra := entry.extra ++ [(.string name, value)] }

/-- Read the attributes that follow those in `seen`. -/
def readAttributes (entry : Entry) (seen : List Attribute) :
    Mapping → Except AttributeFault Entry
  | [] => .ok entry
  | (key, value) :: rest =>
    match key.text? with
    | none => .error (.notName key.untagged)
    | some name =>
      match Attribute.ofName? name with
      | some one =>
        if seen.contains one then .error (.repeated one.name)
        else do readAttributes (← entry.withAttribute value one) (one :: seen) rest
      | none => do readAttributes (← entry.withExtra name value) seen rest

/-- The first name among attributes that was given before, given those in front of them. -/
def repeatedName? (seen : Mapping) : Mapping → Option String
  | [] => none
  | (key, value) :: rest =>
    match key with
    | .string name =>
      if Mapping.contains seen key then some name else repeatedName? ((key, value) :: seen) rest
    | _ => repeatedName? seen rest

/-- Read the attributes of an entry. -/
def ofMapping (entries : Mapping) : Except AttributeFault Entry := do
  let entry ← readAttributes {} [] entries
  match repeatedName? [] entry.extra with
  | some name => .error (.repeatedExtra name)
  | none => .ok entry

/-- Read an entry, whether or not it is tagged; nothing is the entry without attributes. -/
def ofTree (tree : Tree) : Except AttributeFault Entry :=
  match tree.untagged with
  | .null => .ok {}
  | .mapping entries => ofMapping entries
  | other => .error (.notAttributes other)

end Entry

end BuildManifest
