import BuildManifest.Manifest.Basic

/-!
# Warnings

What a user should hear of although it stops nothing.
-/

set_option autoImplicit false

namespace BuildManifest

/-- Something a user should hear of. -/
inductive Warning where
  /-- The manifest does not say which version of the format it is in. -/
  | apiAssumed (supported : Nat)
  /-- The manifest is in another version of the format, which was to be passed over. -/
  | apiForced (found supported : Nat)
  /-- Defaults for a section that does not exist. -/
  | unknownDefaults (name : String)
  /-- An entry that was to be kept does not exist. -/
  | notInManifest (kind : SectionKind) (name : String)
  /-- No entry is left, which was to be passed over. -/
  | emptyForced
  /-- An override tries to change a key it may not change. -/
  | overrideRefused (location key : String)
  /-- The directory of the checkouts stays. -/
  | keepingDirectory (path : String)
  deriving DecidableEq, Repr

/-- The wording of a warning. -/
def Warning.message : Warning → String
  | .apiAssumed supported => "no api version given, assuming " ++ toString supported
  | .apiForced found supported =>
    "api version " ++ toString found ++ " is not supported (expected " ++ toString supported ++
      "); continuing because force is set"
  | .unknownDefaults name => "ignoring defaults for unknown section '" ++ name ++ "'"
  | .notInManifest kind name =>
    "requested " ++ kind.singular ++ " '" ++ name ++ "' is not in the manifest"
  | .emptyForced =>
    "no projects or libraries left after pruning; continuing because force is set"
  | .overrideRefused location key =>
    "override " ++ location ++ " may not change '" ++ key ++ "'; keeping the original value"
  | .keepingDirectory path => "keeping temporary directory " ++ path

end BuildManifest
