import BuildManifest.Check.Prune
import BuildManifest.Check.Validate
import BuildManifest.Resolve.Load

/-!
# Resolving manifests

A manifest is loaded, restricted to what the user selects, and validated.

## What is here

* `ResolveOptions` — how strictly to check, and what overrides may do.
* `load`, `resolve` — the manifest of a source, and the validated one.
-/

set_option autoImplicit false

namespace BuildManifest

/-- How a manifest is resolved. -/
structure ResolveOptions where
  /-- How strictly to check. -/
  check : CheckOptions := {}
  /-- Whether the directory of the checkouts stays. -/
  keepStaging : Bool := false
  /-- Which keys overrides may change. -/
  policy : OverridePolicy := .everything
  /-- How deeply references may be nested. -/
  nesting : Nat := 10000
  deriving Repr

/-- A resolved manifest. -/
structure Resolution where
  /-- The manifest. -/
  manifest : Manifest
  /-- The source as messages show it. -/
  origin : String
  /-- The directory of the checkouts, if it stays. -/
  keptDirectory : Option String
  deriving Repr

/-- A source as messages about its manifest show it. -/
def describe (source : Source) (manifest : Manifest) : String :=
  match manifest.core with
  | some core => source.text ++ " (core " ++ core ++ ")"
  | none => source.text

/-- Restrict a manifest to what is selected. -/
def select (manifest : Manifest) (force : Bool) (context : String) :
    Option Selection → Load Manifest
  | none => return manifest
  | some selection => do
    liftM (Dialogue.warnings (manifest.pruneWarnings selection force))
    match manifest.prune selection force with
    | .ok pruned => return pruned
    | .error violation => Load.fail (.invalid context [violation])

/-- Validate a manifest. -/
def checked (manifest : Manifest) (options : CheckOptions) (hooks : List Hook)
    (context : String) : Load Manifest := do
  liftM (Dialogue.warnings (manifest.checkWarnings options))
  match manifest.validate options hooks with
  | .ok valid => return valid
  | .error violations => Load.fail (.invalid context violations)

/-- Load, restrict and validate. -/
def resolveManifest (options : ResolveOptions) (hooks : List Hook) (source : Source)
    (selection : Option Selection) : Load Manifest := do
  let manifest ← loadManifest options.policy options.nesting source
  let context := describe source manifest
  let pruned ← select manifest options.check.force context selection
  checked pruned options.check hooks context

/-- The directory that stays of a staging area. -/
def keptDirectory (keep : Bool) (staging : Staging) : Option String :=
  if keep then staging.directory else none

/-- Run a loading in a session of its own. -/
def staged {α : Type} (keep : Bool) (loading : Load α) :
    Dialogue (Except ResolveError α × Option String) := do
  let (result, session) ← loading.run {}
  let kept := keptDirectory keep session.staging
  Dialogue.warnings (kept.toList.map .keepingDirectory)
  return (result, kept)

/-- The manifest of a source, neither restricted nor validated. -/
def load (options : ResolveOptions) (source : Source) :
    Dialogue (Except ResolveError Manifest) := do
  let (result, _) ← staged options.keepStaging (loadManifest options.policy options.nesting source)
  return result

/-- The validated manifest of a source. -/
def resolve (options : ResolveOptions) (hooks : List Hook) (source : Source)
    (selection : Option Selection) : Dialogue (Except ResolveError Resolution) := do
  let (result, kept) ← staged options.keepStaging (resolveManifest options hooks source selection)
  return result.map fun manifest => ⟨manifest, source.text, kept⟩

end BuildManifest
