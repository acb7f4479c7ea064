import BuildManifest.Manifest.Basic

/-!
# Violations

What makes a manifest unfit for a build.
-/

set_option autoImplicit false

namespace BuildManifest

/-- A reason why a manifest cannot be built. -/
inductive Violation where
  /-- An attribute of the manifest is missing. -/
  | missingAttribute (name : String)
  /-- The platform version is none. -/
  | badCoreVersion (text : String)
  /-- The manifest is in another version of the format. -/
  | apiMismatch (found supported : Nat)
  /-- A name occurs more than once. -/
  | duplicateName (kind : SectionKind) (name : String)
  /-- A path leaves its root. -/
  | unsafePath (kind : SectionKind) (name key value : String)
  /-- No entry is left. -/
  | emptyAfterPrune
  /-- A check of the user's own fails. -/
  | hookFailed (hook message : String)
  deriving DecidableEq, Repr

/-- The wording of a violation. -/
def Violation.message : Violation → String
  | .missingAttribute name => "missing required attribute '" ++ name ++ "'"
  | .badCoreVersion text =>
    "invalid core version '" ++ text ++ "': expected MAJOR, MAJOR.x or MAJOR.MINOR[-suffix]"
  | .apiMismatch found supported =>
    "api version " ++ toString found ++ " is not supported (expected " ++ toString supported ++ ")"
  | .duplicateName kind name =>
    "duplicate " ++ kind.singular ++ " '" ++ name ++ "' in " ++ kind.name
  | .unsafePath kind name key value =>
    "unsafe path in " ++ kind.name ++ " entry '" ++ name ++ "': " ++ key ++ " = '" ++ value ++ "'"
  | .emptyAfterPrune => "no projects or libraries left after pruning"
  | .hookFailed hook message => "validation hook '" ++ hook ++ "' failed: " ++ message

end BuildManifest
