import BuildManifest.Check.Violation
import BuildManifest.Fetch.Input
import BuildManifest.Fetch.Error
import BuildManifest.Manifest.Fault

/-!
# Why a manifest is not resolved
-/

set_option autoImplicit false

namespace BuildManifest

/-- Why a manifest is not resolved. -/
inductive ResolveError where
  /-- A manifest cannot be read. -/
  | manifest (origin : String) (error : ManifestError)
  /-- A manifest or a checkout cannot be fetched. -/
  | fetchFailed (reference : String) (error : FetchError)
  /-- A reference leads nowhere. -/
  | missingInclude (reference : String)
  /-- A reference leads out of its checkout. -/
  | unsafeInclude (reference : String)
  /-- A manifest is read within itself. -/
  | cyclicInclude (chain : List String)
  /-- References are nested more deeply than allowed. -/
  | nestedTooDeeply
  /-- The standard input is empty. -/
  | noInput
  /-- The manifest cannot be built. -/
  | invalid (context : String) (violations : List Violation)
  /-- Reading the standard input or making a directory failed. -/
  | io (message : String)
  deriving Repr

namespace ResolveError

/-- The error of the standard input. -/
def ofInput : InputError → ResolveError
  | .empty => .noInput
  | .io message => .io message

/-- The message of the error. -/
def message : ResolveError → String
  | .manifest origin error => "manifest error in " ++ origin ++ ": " ++ error.message
  | .fetchFailed reference error => "failed to fetch '" ++ reference ++ "': " ++ error.message
  | .missingInclude reference => "include not found: " ++ reference
  | .unsafeInclude reference => "include path escapes its checkout: " ++ reference
  | .cyclicInclude chain => "cyclic include: " ++ String.intercalate " -> " chain
  | .nestedTooDeeply => "includes are nested too deeply"
  | .noInput => "no input: standard input was empty"
  | .invalid context violations =>
    "invalid manifest " ++ context ++ ": " ++
      String.intercalate "; " (violations.map Violation.message)
  | .io message => "I/O error: " ++ message

end ResolveError

end BuildManifest
