import BuildManifest.Resolve.Basic
import BuildManifest.Toml.Reading

/-!
# Settings

What a user has settled once and for all in a TOML file.  Every setting may be left out.

## What is here

* `Settings` — the settings and what they are if left out.
* `Settings.ofToml?`, `readSettings?` — the settings of a document.
* `Settings.resolveOptions` — what they mean for resolving.
-/

set_option autoImplicit false

namespace BuildManifest

/-- How manifests are resolved. -/
structure ResolverSettings where
  /-- The supported version of the manifest format. -/
  api : Nat := supportedApi
  /-- Whether to pass over what can be passed over. -/
  force : Bool := false
  /-- Whether the directory of the checkouts stays. -/
  keepTemp : Bool := false
  /-- The override policy as a text. -/
  allowOverride : String := "all"
  deriving DecidableEq, Repr

/-- The version of the program. -/
def programVersion : String := "0.1.0"

/-- How manifests are fetched. -/
structure FetchSettings where
  /-- How long to wait for a server. -/
  timeoutSeconds : Nat := 30
  /-- How to introduce oneself to a server. -/
  userAgent : String := "makespec/" ++ programVersion
  /-- The program that makes checkouts. -/
  gitProgram : String := "git"
  deriving DecidableEq, Repr

/-- All settings. -/
structure Settings where
  /-- How manifests are resolved. -/
  resolver : ResolverSettings := {}
  /-- How manifests are fetched. -/
  fetch : FetchSettings := {}
  deriving DecidableEq, Repr

namespace Settings

/-- The fields of a group: a table by name, or values in order.  A moment in time has none. -/
def fields? (names : List String) : TomlValue → Option (String → Option TomlValue)
  | .table _ entries => some fun name => entries.lookup name
  | .array items => some fun name => (names.zip items).lookup name
  | .tables elements =>
    some fun name => (names.zip (elements.map (TomlValue.table .header))).lookup name
  | .moment _ => some fun _ => none
  | _ => none

/-- A whole number from zero up and below a bound. -/
def natural? (bound : Nat) : TomlValue → Option Nat
  | .integer value => if 0 ≤ value ∧ value < bound then some value.toNat else none
  | _ => none

/-- A truth value. -/
def truth? : TomlValue → Option Bool
  | .boolean value => some value
  | _ => none

/-- A text. -/
def text? : TomlValue → Option String
  | .string value => some value
  | _ => none

/-- A field that may be left out. -/
def field? {α : Type} (read : TomlValue → Option α) (usual : α) : Option TomlValue → Option α
  | none => some usual
  | some value => read value

/-- The settings of the resolver. -/
def resolverOf? (value : TomlValue) : Option ResolverSettings := do
  let usual : ResolverSettings := {}
  let field ← fields? ["api_version", "force", "keep_temp", "allow_override"] value
  let api ← field? (natural? versionBound) usual.api (field "api_version")
  let force ← field? truth? usual.force (field "force")
  let keepTemp ← field? truth? usual.keepTemp (field "keep_temp")
  let allowOverride ← field? text? usual.allowOverride (field "allow_override")
  return { api, force, keepTemp, allowOverride }

/-- The settings for fetching. -/
def fetchOf? (value : TomlValue) : Option FetchSettings := do
  let usual : FetchSettings := {}
  let field ← fields? ["timeout_secs", "user_agent", "git_binary"] value
  let timeoutSeconds ← field? (natural? (Nat.pow 2 64)) usual.timeoutSeconds (field "timeout_secs")
  let userAgent ← field? text? usual.userAgent (field "user_agent")
  let gitProgram ← field? text? usual.gitProgram (field "git_binary")
  return { timeoutSeconds, userAgent, gitProgram }

/-- The settings that a document describes; what it says besides does not matter. -/
def ofToml? (document : TomlTable) : Option Settings := do
  let resolver ← field? resolverOf? {} (document.lookup "resolver")
  let fetch ← field? fetchOf? {} (document.lookup "fetch")
  return { resolver, fetch }

/-- What the settings mean for resolving, unless their policy is none. -/
def resolveOptions (settings : Settings) : Except String ResolveOptions :=
  match OverridePolicy.ofText? settings.resolver.allowOverride with
  | some policy =>
    .ok
      { check := { api := settings.resolver.api, force := settings.resolver.force }
        keepStaging := settings.resolver.keepTemp
        policy }
  | none => .error (OverridePolicy.notPolicy settings.resolver.allowOverride)

end Settings

/-- The settings of a text. -/
def readSettings? (text : String) : Option Settings := (Toml.readToml? text).bind Settings.ofToml?

/-- The file of the settings below a user's home directory. -/
def settingsPath (home : String) : String := FilePath.join home ".config/makespec/config.toml"

/-- Why there are no settings. -/
inductive SettingsError where
  /-- Their file cannot be read. -/
  | unreadable (path reason : String)
  /-- Their file says something else. -/
  | invalid (path : String)
  deriving DecidableEq, Repr

/-- The wording of the error. -/
def SettingsError.message : SettingsError → String
  | .unreadable path reason => "failed to read config " ++ path ++ ": " ++ reason
  | .invalid path => "invalid config " ++ path ++ ": not a valid settings document"

/-- The settings of a file with that content, unless it cannot be read. -/
def settingsOfFile (path : String) (content : Except String String) :
    Except SettingsError Settings :=
  match content with
  | .error reason => .error (.unreadable path reason)
  | .ok text =>
    match readSettings? text with
    | some settings => .ok settings
    | none => .error (.invalid path)

end BuildManifest
