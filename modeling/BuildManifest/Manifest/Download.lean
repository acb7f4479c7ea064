import BuildManifest.Text.Blank

/-!
# Downloads and patches

Where the sources of an entry come from, and what is applied to them.

## What is here

* `DownloadKind` — a plain file, or a checkout of a version control system.
* `Download` — address, kind and the state to check out, each of them optional.
* `Patch` — an address, with a checksum or without.
-/

set_option autoImplicit false

namespace BuildManifest

/-- How sources are obtained. -/
inductive DownloadKind where
  /-- By downloading a file. -/
  | file
  /-- By a checkout with a version control system. -/
  | checkout (system : String)
  deriving DecidableEq, Repr, Inhabited

namespace DownloadKind

/-- The words for a plain file. -/
def fileWords : List String := ["", "file", "get", "url"]

/-- The kind that a word names, whatever its case and the blanks around it. -/
def ofText (text : String) : DownloadKind :=
  let word := (Text.trimmed text).map Char.toLower
  if fileWords.contains word then .file else .checkout word

/-- The word for a kind. -/
def text : DownloadKind → String
  | .file => "file"
  | .checkout system => system

end DownloadKind

/-- Where sources are obtained. -/
structure Download where
  /-- How they are obtained. -/
  kind : Option DownloadKind := none
  /-- Their address. -/
  url : Option String := none
  /-- The branch to check out. -/
  branch : Option String := none
  /-- The tag to check out. -/
  tag : Option String := none
  /-- The revision to check out. -/
  revision : Option String := none
  deriving DecidableEq, Repr, Inhabited

namespace Download

/-- The download of an address. -/
def ofUrl (url : String) : Download := { url := some url }

/-- A download of no stated kind is a plain file. -/
def effectiveKind (download : Download) : DownloadKind := download.kind.getD .file

/-- The version control system of a checkout. -/
def system? (download : Download) : Option String :=
  match download.kind with
  | some (.checkout system) => some system
  | _ => none

/-- What `own` leaves open is taken from `defaults`. -/
def fill (own defaults : Download) : Download where
  kind := own.kind <|> defaults.kind
  url := own.url <|> defaults.url
  branch := own.branch <|> defaults.branch
  tag := own.tag <|> defaults.tag
  revision := own.revision <|> defaults.revision

end Download

/-- A change applied to sources. -/
inductive Patch where
  /-- A bare address. -/
  | bare (url : String)
  /-- An address with attributes. -/
  | detailed (url : String) (md5 : Option String)
  deriving DecidableEq, Repr, Inhabited

/-- The address of a patch. -/
def Patch.url : Patch → String
  | .bare url => url
  | .detailed url _ => url

end BuildManifest
