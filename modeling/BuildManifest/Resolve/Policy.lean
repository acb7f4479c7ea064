import BuildManifest.Manifest.Labelled
import BuildManifest.Text.Blank
import BuildManifest.Text.Infix

/-!
# Override policies

Which keys of a manifest its overrides may change.
-/

set_option autoImplicit false

namespace BuildManifest

/-- Which keys overrides may change. -/
inductive OverridePolicy where
  /-- All keys. -/
  | everything
  /-- No key. -/
  | nothing
  /-- These keys. -/
  | only (keys : Names)
  deriving DecidableEq, Repr

namespace OverridePolicy

/-- Whether a key may be changed. -/
def allows : OverridePolicy → String → Bool
  | .everything, _ => true
  | .nothing, _ => false
  | .only keys, key => keys.contains key

/-- The keys of a list with commas. -/
def listed (text : List Char) : List String :=
  ((Text.splitAt ',' text).map fun item => String.ofList (Text.trim item)).filter
    fun item => !item.isEmpty

/-- The policy that a text names: `all`, `none` or a list of keys. -/
def ofText? (text : String) : Option OverridePolicy :=
  let word := Text.trimmed text
  if word = "all" then some .everything
  else if word = "none" ∨ word = "" then some .nothing
  else
    match listed word.toList with
    | [] => none
    | keys => some (.only (.ofNames keys))

/-- What is said about a text that names no policy. -/
def notPolicy (text : String) : String := "invalid override policy '" ++ text ++ "'"

/-- The text of a policy. -/
def text : OverridePolicy → String
  | .everything => "all"
  | .nothing => "none"
  | .only keys => String.intercalate "," keys.labels

end OverridePolicy

end BuildManifest
