import BuildManifest.Fetch.Error
import BuildManifest.Text.Utf8
import BuildManifest.Url.Parse

/-!
# What a URL is read from

URLs are read from servers or from files of this machine.
-/

set_option autoImplicit false

namespace BuildManifest

/-- What the text at a URL is read from. -/
inductive RemoteTarget where
  /-- A server. -/
  | server (url : Url)
  /-- The file of a path. -/
  | file (path : String)
  deriving DecidableEq, Repr

/-- The file of a path that is given in bytes.  The names of files are texts, so that there is none
if the bytes are no text. -/
def fileTarget (path : List UInt8) : Except FetchError RemoteTarget :=
  match Text.decodeUtf8 path with
  | some text => .ok (.file text)
  | none => .error (.notFound (Text.showBytes path))

/-- The target of a URL. -/
def remoteTarget (url : Url) : Except FetchError RemoteTarget :=
  if url.scheme = "http" ∨ url.scheme = "https" then .ok (.server url)
  else if url.scheme = "file" then
    match url.filePath? with
    | some path => fileTarget path
    | none => .error (.unsupportedScheme url.text)
  else .error (.unsupportedScheme url.scheme)

end BuildManifest
