import BuildManifest.Url.Host
import BuildManifest.Url.Path

/-!
# Reading URLs

A text as an absolute URL, by itself or relative to another URL.

## What is here

* `Url.parse`, `Url.join` — the readers.
* `Url.remote?` — the URL of a reference that is one.
* `Url.filePath?` — the path of a file's URL.
-/

set_option autoImplicit false

namespace BuildManifest.Url

/-! ## The parts of a text -/

/-- A text without control characters and spaces at its ends and without line breaks and tabs. -/
def cleaned (text : List Char) : List Char :=
  let isEdge (c : Char) : Bool := c.toNat ≤ 0x20
  let inner := ((text.dropWhile isEdge).reverse.dropWhile isEdge).reverse
  inner.filter fun c => c != '\t' && c != '\n' && c != '\r'

/-- A character of a scheme. -/
def isSchemeChar (c : Char) : Bool := c.isAlphanum || c == '+' || c == '-' || c == '.'

/-- The scheme that a text starts with, and what follows its colon. -/
def splitScheme (text : List Char) : Option (String × List Char) :=
  let name := text.takeWhile isSchemeChar
  match name.head?, text.dropWhile isSchemeChar with
  | some first, ':' :: rest =>
    if first.isAlpha then some (String.ofList (name.map Char.toLower), rest) else none
  | _, _ => none

/-- The text before a mark, and after it if the mark occurs. -/
def cutAt (mark : Char) (text : List Char) : List Char × Option (List Char) :=
  match text.dropWhile (· != mark) with
  | [] => (text, none)
  | _ :: rest => (text.takeWhile (· != mark), some rest)

/-- A reference taken apart. -/
structure Parts where
  /-- Everything before query and fragment. -/
  front : List Char
  /-- The query. -/
  query : Option (List Char)
  /-- The fragment. -/
  fragment : Option (List Char)

/-- Take a reference apart. -/
def Parts.of (text : List Char) : Parts :=
  let (rest, fragment) := cutAt '#' text
  let (front, query) := cutAt '?' rest
  ⟨front, query, fragment⟩

/-- The query, encoded. -/
def Parts.queryText (parts : Parts) (kind : SchemeKind) : Option String :=
  parts.query.map (percentEncode (if kind == .other then querySet else specialQuerySet))

/-- The fragment, encoded. -/
def Parts.fragmentText (parts : Parts) : Option String :=
  parts.fragment.map (percentEncode fragmentSet)

/-- The URL of a scheme, an authority and a path, with the query and fragment of a reference. -/
def Parts.assemble (parts : Parts) (scheme : String) (authority : Option Authority)
    (path : UrlPath) : Url :=
  ⟨scheme, authority, path, parts.queryText (.of scheme), parts.fragmentText⟩

/-! ## Authorities -/

/-- A slash, or a backslash where it counts as one. -/
def isSlash (kind : SchemeKind) (c : Char) : Bool := c = '/' || (c = '\\' && kind.backslashes)

/-- User name and password, encoded. -/
def userinfoText (text : List Char) : String :=
  let (name, password) := cutAt ':' text
  let user := percentEncode userinfoSet name
  match password with
  | none => user
  | some [] => user
  | some secret => user ++ ":" ++ percentEncode userinfoSet secret

/-- What stands before the last `@` of an authority, if there is one, and after it. -/
def splitUserinfo (text : List Char) : Option (List Char) × List Char :=
  let reversed := text.reverse
  match reversed.dropWhile (· != '@') with
  | [] => (none, text)
  | _ :: before => (some before.reverse, (reversed.takeWhile (· != '@')).reverse)

/-- The host of an authority and what follows it; colons in brackets belong to the host. -/
def splitHost : Bool → List Char → List Char × List Char
  | _, [] => ([], [])
  | inBrackets, c :: rest =>
    if c = ':' && !inBrackets then ([], c :: rest)
    else
      let inside := if c = '[' then true else if c = ']' then false else inBrackets
      let (host, after) := splitHost inside rest
      (c :: host, after)

/-- The number after a host: none, or a colon and digits. -/
def readPortNumber? (scheme : String) : List Char → Option (Option Nat)
  | [] => some none
  | [':'] => some none
  | ':' :: digits =>
    if Text.isDigits digits then
      (Text.readNatBelow 65536 digits).map fun number =>
        if (SchemeKind.usualPorts.lookup scheme) == some number then none else some number
    else none
  | _ => none

/-- The host of a scheme. -/
def hostFor? (kind : SchemeKind) (host : List Char) : Option String :=
  if kind == .other then otherHost? host else specialHost? host

/-- Read an authority. -/
def readAuthority? (scheme : String) (text : List Char) : Option Authority :=
  let kind := SchemeKind.of scheme
  let (user, rest) := splitUserinfo text
  let (host, after) := splitHost false rest
  let userinfo := (user.map userinfoText).getD ""
  if host.isEmpty && (kind != .other || !after.isEmpty || !userinfo.isEmpty) then none
  else do
    let name ← if host.isEmpty then some "" else hostFor? kind host
    let number ← readPortNumber? scheme after
    return ⟨userinfo, name, number⟩

/-- Whether nothing follows the authority that ends where `after` starts. -/
def Parts.endsWith (parts : Parts) (after : List Char) : Bool :=
  after.isEmpty && parts.query.isNone && parts.fragment.isNone

/-- Read what follows the slashes before an authority.  A bare `@` may be one only at the end. -/
def readHierarchy? (scheme : String) (parts : Parts) (text : List Char) : Option Url :=
  let kind := SchemeKind.of scheme
  let before := text.takeWhile fun c => !isSlash kind c
  let after := text.dropWhile fun c => !isSlash kind c
  if before == ['@'] && !parts.endsWith after then none
  else
    (readAuthority? scheme before).map fun authority =>
      let path :=
        if after.isEmpty && kind == .other then []
        else appendSegments kind [] (after.drop 1)
      parts.assemble scheme (some authority) (.rooted path)

/-! ## Files -/

/-- The URL of a file. -/
def fileUrl (parts : Parts) (host : String) (path : List String) : Url :=
  parts.assemble "file" (some { host }) (.rooted path)

/-- Read a file's URL after two slashes. -/
def readFileHost? (parts : Parts) (text : List Char) : Option Url :=
  let host := text.takeWhile fun c => !isSlash .file c
  let after := text.dropWhile fun c => !isSlash .file c
  if host.isEmpty then some (fileUrl parts "" (appendSegments .file [] (text.drop 1)))
  else if isDrive host then some (fileUrl parts "" (appendSegments .file [] text))
  else
    (specialHost? host).map fun name =>
      let path := appendSegments .file [] (after.drop 1)
      let drive := (path.head?.map isPlainDrive).getD false
      fileUrl parts (if name == "localhost" || drive then "" else name) path

/-- The host of a file's URL. -/
def hostOf (url : Url) : String := (url.authority.map Authority.host).getD ""

/-- Read a file's URL after one slash, relative to another. -/
def readFileRoot (base : Option Url) (parts : Parts) (text : List Char) : Url :=
  match base with
  | none => fileUrl parts "" (appendSegments .file [] text)
  | some base =>
    let drive := base.segments.take 1
    if startsWithDrive text then fileUrl parts "" (appendSegments .file [] text)
    else if drive.any isPlainDrive then fileUrl parts "" (appendSegments .file drive text)
    else fileUrl parts (hostOf base) (appendSegments .file [] text)

/-- A reference that has no front of its own keeps the path, and the query unless it has one. -/
def keepFront (base : Url) (parts : Parts) : Url :=
  { base with
    query := match parts.query with
      | some _ => parts.queryText (.of base.scheme)
      | none => base.query
    fragment := parts.fragmentText }

/-- Read a file's URL. -/
def readFile? (base : Option Url) (parts : Parts) : Option Url :=
  match parts.front with
  | first :: rest =>
    if isSlash .file first then
      match rest with
      | second :: after =>
        if isSlash .file second then readFileHost? parts after
        else some (readFileRoot base parts rest)
      | [] => some (readFileRoot base parts rest)
    else
      match base with
      | some base =>
        if startsWithDrive parts.front then
          some (fileUrl parts "" (appendSegments .file [] parts.front))
        else
          some (fileUrl parts (hostOf base)
            (appendSegments .file (shorten .file base.segments) parts.front))
      | none => some (fileUrl parts "" (appendSegments .file [] parts.front))
  | [] =>
    match base with
    | some base => some (keepFront base parts)
    | none => some (fileUrl parts "" [""])

/-! ## Readers -/

/-- Read a reference relative to a URL that is not a file's. -/
def readRelative? (base : Url) (parts : Parts) : Option Url :=
  let kind := SchemeKind.of base.scheme
  let isAnySlash (c : Char) : Bool := c = '/' || c = '\\'
  match parts.front with
  | [] => some (keepFront base parts)
  | '/' :: '/' :: rest => readHierarchy? base.scheme parts rest
  | first :: rest =>
    if isAnySlash first then
      if (rest.head?.map isAnySlash).getD false then
        readHierarchy? base.scheme parts (rest.dropWhile isAnySlash)
      else
        some (parts.assemble base.scheme base.authority (.rooted (appendSegments kind [] rest)))
    else
      some (parts.assemble base.scheme base.authority
        (.rooted (appendSegments kind base.segments.dropLast parts.front)))

/-- Read what follows a scheme, which may be relative to a URL of the same scheme. -/
def readAfterScheme? (base : Option Url) (scheme : String) (parts : Parts) : Option Url :=
  let sameBase := base.filter fun url => url.scheme == scheme
  match SchemeKind.of scheme with
  | .file => readFile? sameBase parts
  | .special =>
    let slashes := parts.front.takeWhile (isSlash .special)
    match sameBase with
    | some base =>
      if slashes.length < 2 then readRelative? base parts
      else readHierarchy? scheme parts (parts.front.dropWhile (isSlash .special))
    | none => readHierarchy? scheme parts (parts.front.dropWhile (isSlash .special))
  | .other =>
    match parts.front with
    | '/' :: '/' :: rest => readHierarchy? scheme parts rest
    | '/' :: rest => some (parts.assemble scheme none (.rooted (appendSegments .other [] rest)))
    | front => some (parts.assemble scheme none (.rootless (percentEncode controlSet front)))

/-- Read a reference without a scheme. -/
def readWithoutScheme? (base : Url) (text : List Char) : Option Url :=
  let parts := Parts.of text
  if text.head? == some '#' then some (keepFront base parts)
  else if !base.isBase then none
  else if base.scheme == "file" then readFile? (some base) parts
  else readRelative? base parts

/-- Read a reference, relative to a URL if there is one. -/
def read? (base : Option Url) (text : String) : Option Url :=
  let input := cleaned text.toList
  match splitScheme input with
  | some (scheme, rest) => readAfterScheme? base scheme (Parts.of rest)
  | none => base.bind fun url => readWithoutScheme? url input

/-- Read an absolute URL. -/
def parse (text : String) : Option Url := read? none text

/-- Read a reference relative to a URL. -/
def join (base : Url) (text : String) : Option Url := read? (some base) text

/-- The URL of a reference that is one: relative references can be resolved against it, and its
scheme has more than one letter, so that a drive letter does not make a path a URL. -/
def remote? (reference : String) : Option Url :=
  (parse reference).filter fun url => 1 < url.scheme.length && url.isBase

/-- The path of a file's URL, if the file is on this machine. -/
def filePath? (url : Url) : Option (List UInt8) :=
  if url.isBase && (hostOf url == "" || hostOf url == "localhost") then
    some (url.segments.flatMap fun segment => 0x2F :: percentDecode segment.toList)
  else none

end BuildManifest.Url
