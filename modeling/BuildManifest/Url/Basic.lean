/-!
# URLs

An absolute URL, taken apart.  Its parts are in their canonical form, so that equal URLs have
equal texts.

## What is here

* `Url` — scheme, authority, path, query and fragment.
* `Url.text` — the URL as a text.
-/

set_option autoImplicit false

namespace BuildManifest

/-- Who serves a URL. -/
structure Authority where
  /-- User name and password, encoded. -/
  userinfo : String := ""
  /-- The host; empty for files of this machine. -/
  host : String := ""
  /-- The number after the host, if it is not the usual one of the scheme. -/
  portNumber : Option Nat := none
  deriving DecidableEq, Repr

/-- The path of a URL. -/
inductive UrlPath where
  /-- A text that does not start with a slash. -/
  | rootless (text : String)
  /-- Segments, each after a slash. -/
  | rooted (segments : List String)
  deriving DecidableEq, Repr

/-- An absolute URL. -/
structure Url where
  /-- The scheme in lower case. -/
  scheme : String
  /-- Who serves it. -/
  authority : Option Authority
  /-- The path, encoded. -/
  path : UrlPath
  /-- The query, encoded. -/
  query : Option String
  /-- The fragment, encoded. -/
  fragment : Option String
  deriving DecidableEq, Repr

namespace Url

/-- An authority as a text. -/
def authorityText (authority : Authority) : String :=
  (if authority.userinfo.isEmpty then "" else authority.userinfo ++ "@") ++ authority.host ++
    (match authority.portNumber with
    | some number => ":" ++ toString number
    | none => "")

/-- Segments as a text. -/
def segmentsText (segments : List String) : String :=
  String.join (segments.map fun segment => "/" ++ segment)

/-- The path as a text.  Without an authority, a path must not start with two slashes. -/
def pathText (url : Url) : String :=
  match url.path with
  | .rootless text => text
  | .rooted segments =>
    match url.authority, segments with
    | none, "" :: _ :: _ => "/." ++ segmentsText segments
    | _, _ => segmentsText segments

/-- The URL as a text. -/
def text (url : Url) : String :=
  url.scheme ++ ":" ++
    (match url.authority with
    | some authority => "//" ++ authorityText authority
    | none => "") ++
    url.pathText ++
    (match url.query with
    | some query => "?" ++ query
    | none => "") ++
    (match url.fragment with
    | some fragment => "#" ++ fragment
    | none => "")

/-- The segments of the path. -/
def segments (url : Url) : List String :=
  match url.path with
  | .rootless _ => []
  | .rooted segments => segments

/-- Relative references can be resolved against the URL. -/
def isBase (url : Url) : Bool :=
  match url.path with
  | .rootless _ => false
  | .rooted _ => true

end Url

end BuildManifest
