/-!
# Why nothing was fetched

The causes for which a manifest or a checkout cannot be had, and their wording.
-/

set_option autoImplicit false

namespace BuildManifest

/-- Why something cannot be fetched. -/
inductive FetchError where
  /-- Reading failed; what was to be read may not exist. -/
  | io (missing : Bool) (message : String)
  /-- A server did not answer as it should. -/
  | http (message : String)
  /-- It does not exist. -/
  | notFound (place : String)
  /-- A checkout failed. -/
  | checkout (url message : String)
  /-- There are no checkouts with this system. -/
  | unsupportedSystem (system : String)
  /-- There is no address. -/
  | missingUrl
  /-- Nothing can be read from URLs of this scheme. -/
  | unsupportedScheme (scheme : String)
  /-- A value would be taken for an option. -/
  | optionLike (field value : String)
  deriving DecidableEq, Repr

namespace FetchError

/-- It simply does not exist. -/
def isNotFound : FetchError → Bool
  | .io missing _ => missing
  | .notFound _ => true
  | _ => false

/-- The wording of the error. -/
def message : FetchError → String
  | .io _ text => "fetch I/O error: " ++ text
  | .http text => "HTTP error: " ++ text
  | .notFound place => "not found: " ++ place
  | .checkout url text => "checkout of " ++ url ++ " failed: " ++ text
  | .unsupportedSystem system => "unsupported version control system '" ++ system ++ "'"
  | .missingUrl => "download has no url"
  | .unsupportedScheme scheme => "unsupported URL scheme '" ++ scheme ++ "'"
  | .optionLike field value =>
    "refusing download " ++ field ++ " '" ++ value ++ "': looks like a command-line option"

end FetchError

end BuildManifest
