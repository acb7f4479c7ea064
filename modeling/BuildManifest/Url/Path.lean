import BuildManifest.Url.Basic
import BuildManifest.Url.Percent

/-!
# Paths of URLs

A path is read segment by segment.  Segments that mean "here" and "up" are carried out at once, so
that no path contains one.

## What is here

* `SchemeKind` — what a scheme means for the reading of a path.
* `appendSegments` — a path followed by the segments of a text.
-/

set_option autoImplicit false

namespace BuildManifest.Url

/-- What a scheme means for the reading of a URL. -/
inductive SchemeKind where
  /-- Files of this machine. -/
  | file
  /-- Schemes with a host, such as `https`. -/
  | special
  /-- All others. -/
  | other
  deriving DecidableEq, Repr

namespace SchemeKind

/-- The schemes with a host, and the numbers they usually have after it. -/
def usualPorts : List (String × Nat) :=
  [("http", 80), ("https", 443), ("ws", 80), ("wss", 443), ("ftp", 21)]

/-- The kind of a scheme. -/
def of (scheme : String) : SchemeKind :=
  if scheme = "file" then .file
  else if (usualPorts.lookup scheme).isSome then .special
  else .other

/-- Whether a backslash separates segments as a slash does. -/
def backslashes (kind : SchemeKind) : Bool := kind != .other

end SchemeKind

/-- Segments that mean "here", in lower case. -/
def hereSegments : List String := [".", "%2e"]

/-- Segments that mean "up", in lower case. -/
def upSegments : List String := ["..", ".%2e", "%2e.", "%2e%2e"]

/-- The letter of a drive and a colon or a bar. -/
def isDrive (segment : List Char) : Bool :=
  match segment with
  | [letter, mark] => letter.isAlpha && (mark == ':' || mark == '|')
  | _ => false

/-- A drive letter starts the text. -/
def startsWithDrive (text : List Char) : Bool :=
  isDrive (text.take 2) &&
    (match text.drop 2 with
    | [] => true
    | c :: _ => "/\\?#".toList.contains c)

/-- A drive letter in its canonical form. -/
def isPlainDrive (segment : String) : Bool :=
  isDrive segment.toList && segment.toList.getLast? == some ':'

/-- A path without its last segment; a path of files keeps its drive. -/
def shorten (kind : SchemeKind) (path : List String) : List String :=
  match kind, path with
  | .file, [segment] => if isPlainDrive segment then path else []
  | _, _ => path.dropLast

/-- A segment as it is written in a path after the segments `path`. -/
def plainSegment (kind : SchemeKind) (path : List String) (segment : List Char) : String :=
  let encoded := percentEncode pathSet segment
  if kind == .file && path.isEmpty && isDrive segment then
    String.ofList (segment.take 1 ++ [':'])
  else encoded

/-- A path followed by one more segment, after which there is `more` or not. -/
def appendSegment (kind : SchemeKind) (path : List String) (segment : List Char) (more : Bool) :
    List String :=
  let word := (String.ofList segment).map Char.toLower
  if upSegments.contains word then
    shorten kind path ++ if more then [] else [""]
  else if hereSegments.contains word then
    path ++ if more then [] else [""]
  else path ++ [plainSegment kind path segment]

/-- The segments of a text. -/
def splitSegments (kind : SchemeKind) : List Char → List (List Char)
  | [] => [[]]
  | c :: rest =>
    if c = '/' || (c = '\\' && kind.backslashes) then [] :: splitSegments kind rest
    else
      match splitSegments kind rest with
      | segment :: others => (c :: segment) :: others
      | [] => [[c]]

/-- A path followed by segments. -/
def appendAll (kind : SchemeKind) (path : List String) : List (List Char) → List String
  | [] => path
  | segment :: rest => appendAll kind (appendSegment kind path segment !rest.isEmpty) rest

/-- A path of files without the empty segments it starts with. -/
def trimFilePath (path : List String) : List String :=
  match path.dropWhile String.isEmpty with
  | [] => [""]
  | trimmed => trimmed

/-- A path followed by the segments of a text. -/
def appendSegments (kind : SchemeKind) (path : List String) (text : List Char) : List String :=
  let whole := appendAll kind path (splitSegments kind text)
  if kind == .file then trimFilePath whole else whole

end BuildManifest.Url
