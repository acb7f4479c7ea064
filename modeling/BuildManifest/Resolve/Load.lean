import BuildManifest.Check.Path
import BuildManifest.Fetch.Dialogue
import BuildManifest.Manifest.OfTree
import BuildManifest.Resolve.Error
import BuildManifest.Resolve.Policy

/-!
# Loading manifests

A manifest is loaded together with everything it refers to.  Its includes are layered below it, the
later ones over the earlier ones, and its overrides above it, as far as the policy lets them.

## What is here

* `Session`, `Load` — loading as a dialogue that may fail, and that knows where checkouts go and
  which manifests are being loaded.
* `locate` — the text of a reference, and where it was found.
* `mergeIncludes`, `mergeOverrides` — the two kinds of references of a tree.
* `enter`, `leave` — a location put on the stack of manifests being loaded, and taken off again.
* `loadStep`, `loadTree` — a manifest as a tree, nested at most as deeply as allowed.
* `loadManifest` — the manifest of a source.
-/

set_option autoImplicit false

namespace BuildManifest

/-- Where checkouts go. -/
structure Staging where
  /-- The directory that holds them, once there is one. -/
  directory : Option String := none
  /-- The number of paths handed out. -/
  used : Nat := 0
  deriving DecidableEq, Repr

/-- What a loading keeps track of. -/
structure Session where
  /-- Where checkouts go. -/
  staging : Staging := {}
  /-- Where the manifests that are being loaded were found, the including ones first. -/
  stack : List Location := []
  deriving DecidableEq, Repr

/-- Loading. -/
abbrev Load := ExceptT ResolveError (StateT Session Dialogue)

namespace Load

/-- Ask the outside world. -/
def ask (request : Request) : Load request.Answer := liftM (Dialogue.request request)

/-- Warn of something. -/
def warn (w : Warning) : Load Unit := liftM (Dialogue.warning w)

/-- Fail. -/
def fail {α : Type} (error : ResolveError) : Load α := throw error

end Load

/-! ## Finding what a reference names -/

/-- The directory for checkouts, which is made when it is first needed. -/
def stagingDirectory : Load String := do
  let session ← get
  match session.staging.directory with
  | some directory => return directory
  | none =>
    match ← Load.ask .stagingDirectory with
    | .error message => Load.fail (.io message)
    | .ok directory =>
      set { session with staging := { session.staging with directory := some directory } }
      return directory

/-- The name of the `k`-th checkout. -/
def checkoutName (k : Nat) : String := "include-" ++ toString k

/-- A path for one more checkout. -/
def nextCheckoutPath : Load String := do
  let directory ← stagingDirectory
  let session ← get
  let used := session.staging.used
  set { session with staging := { session.staging with used := used + 1 } }
  return FilePath.join directory (checkoutName used)

/-- A text with the place it was found at. -/
abbrev Found := String × Location

/-- The file of a path, or nothing if there is none. -/
def readLocal? (path : String) (reference : Reference) : Load (Option Found) := do
  match ← Load.ask (.localFile path) with
  | .ok file => return some (file.text, .file file.path)
  | .error error =>
    if error.isNotFound then return none else Load.fail (.fetchFailed reference.text error)

/-- The text at a URL, or nothing if there is none. -/
def readRemote? (url : Url) (reference : Reference) : Load (Option Found) := do
  match ← Load.ask (.remoteText url) with
  | .ok text => return some (text, .remote url)
  | .error error =>
    if error.isNotFound then return none else Load.fail (.fetchFailed reference.text error)

/-- What was found, or a failure. -/
def required (shown : String) : Option Found → Load Found
  | some found => return found
  | none => Load.fail (.missingInclude shown)

/-- What a path leads to relative to the manifest that refers to it. -/
def readRelative? (path : String) (reference : Reference) : Location → Load (Option Found)
  | .file includer =>
    readLocal? (FilePath.join ((FilePath.parent? includer).getD ".") path) reference
  | .remote base =>
    match base.join path with
    | some url => readRemote? url reference
    | none => return none
  | .standardInput => return none

/-- What a path or URL leads to: relative to the manifest that refers to it, and failing that
relative to the working directory. -/
def locatePath (path : String) (includer : Location) : Load Found := do
  match Url.remote? path with
  | some url => required path (← readRemote? url (.plain path))
  | none =>
    match ← readRelative? path (.plain path) includer with
    | some found => return found
    | none => required path (← readLocal? path (.plain path))

/-- A file of a checkout, which must not lead out of it. -/
def locateCheckout (makefile : String) (download : Download) : Load Found := do
  let reference := Reference.checkout makefile download
  if !isSafePath makefile then Load.fail (.unsafeInclude reference.text)
  else do
    let destination ← nextCheckoutPath
    match ← Load.ask (.checkout download destination) with
    | .error error => Load.fail (.fetchFailed reference.text error)
    | .ok root =>
      required reference.text (← readLocal? (FilePath.join root makefile) reference)

/-- What a reference leads to. -/
def locate (includer : Location) : Reference → Load Found
  | .plain path => locatePath path includer
  | .checkout makefile download => locateCheckout makefile download

/-! ## Merging what references lead to -/

/-- The core project first, and the shorthands written out. -/
def settle (tree : Tree) : Tree :=
  match tree with
  | .mapping root => (Tree.mapping (Tree.coreFirst root)).normalize
  | other => other.normalize

/-- A tree that a reference led to, and where it was found. -/
abbrev Child := Tree × Location

/-- The references under a key of a manifest. -/
def referencesOf (location : Location) (value : Tree) : Load (List Reference) :=
  match Manifest.readReferences value with
  | .ok references => return references
  | .error error => Load.fail (.manifest location.text error)

/-- Layer what references lead to over `layer`, the later ones over the earlier ones. -/
def layerAll (load : Reference → Load Child) (layer : Tree) : List Reference → Load Tree
  | [] => return layer
  | reference :: rest => do
    let (child, _) ← load reference
    layerAll load (settle (layer.merge child)) rest

/-- The tree over everything it includes. -/
def mergeIncludes (load : Reference → Load Child) (location : Location) (tree : Tree) :
    Load Tree := do
  match tree with
  | .mapping root =>
    match Mapping.get? root "includes" with
    | none => return tree
    | some value =>
      let references ← referencesOf location value
      let layer ← layerAll load (.mapping []) references
      return settle (layer.merge (.mapping (Mapping.erase root (.string "includes"))))
  | _ => return tree

/-- The keys of an override that it may not change. -/
def refusedKeys (policy : OverridePolicy) (entries : Mapping) : List String :=
  ((Mapping.keys entries).map Tree.keyText).filter fun key => !policy.allows key

/-- The part of an override that the policy allows. -/
def allowedPart (policy : OverridePolicy) (tree : Tree) : Tree :=
  match policy, tree with
  | .everything, _ => tree
  | _, .mapping entries => .mapping (entries.filter fun entry => policy.allows entry.1.keyText)
  | _, _ => tree

/-- What the policy refuses of an override. -/
def refusalWarnings (policy : OverridePolicy) (child : Child) : List Warning :=
  match policy, child.1 with
  | .everything, _ => []
  | _, .mapping entries => (refusedKeys policy entries).map (.overrideRefused child.2.text)
  | _, _ => []

/-- Lay what references lead to over `merged`, one after the other. -/
def overrideAll (load : Reference → Load Child) (policy : OverridePolicy) (merged : Tree) :
    List Reference → Load Tree
  | [] => return merged
  | reference :: rest => do
    let child ← load reference
    liftM (Dialogue.warnings (refusalWarnings policy child))
    overrideAll load policy (settle (merged.merge (allowedPart policy child.1))) rest

/-- The tree under everything that overrides it. -/
def mergeOverrides (load : Reference → Load Child) (policy : OverridePolicy) (location : Location)
    (tree : Tree) : Load Tree := do
  match tree with
  | .mapping root =>
    match Mapping.get? root "overrides" with
    | none => return tree
    | some value =>
      let references ← referencesOf location value
      overrideAll load policy (.mapping (Mapping.erase root (.string "overrides"))) references
  | _ => return tree

/-! ## Loading -/

/-- A text as a tree. -/
def readTree (text : String) (location : Location) : Load (Tree × Dialect) :=
  match parseDetected text with
  | .ok read => return read
  | .error error => Load.fail (.manifest location.text (.parse error))

/-- Load what a reference leads to. -/
def loadReference (load : String → Location → Load (Tree × Dialect)) (includer : Location)
    (reference : Reference) : Load Child := do
  let (text, location) ← locate includer reference
  let (tree, _) ← load text location
  return (tree, location)

/-- Put a location on the stack, where it may not be yet. -/
def enter (location : Location) : Load Unit := do
  let session ← get
  if session.stack.any (·.same location) then
    Load.fail (.cyclicInclude ((session.stack ++ [location]).map Location.text))
  else set { session with stack := session.stack ++ [location] }

/-- Take the last location off the stack. -/
def leave : Load Unit := modify fun session => { session with stack := session.stack.dropLast }

/-- Load a text found at a location, with everything it refers to loaded by `load`. -/
def loadStep (policy : OverridePolicy) (load : String → Location → Load (Tree × Dialect))
    (text : String) (location : Location) : Load (Tree × Dialect) := do
  enter location
  let (tree, dialect) ← readTree text location
  let tree ← mergeIncludes (loadReference load location) location tree.normalize
  let tree ← mergeOverrides (loadReference load location) policy location tree
  leave
  return (tree, dialect)

/-- Load a text found at a location, with at most `nesting` manifests being loaded at a time. -/
def loadTree (policy : OverridePolicy) : Nat → String → Location → Load (Tree × Dialect)
  | 0 => fun _ _ => Load.fail .nestedTooDeeply
  | nesting + 1 => loadStep policy (loadTree policy nesting)

/-- The text of a source. -/
def readSource : Source → Load Found
  | .path path => do
    match ← Load.ask (.localFile path) with
    | .ok file => return (file.text, .file file.path)
    | .error error => Load.fail (.fetchFailed path error)
  | .standardInput => do
    match ← Load.ask .standardInput with
    | .ok text => return (text, .standardInput)
    | .error error => Load.fail (.ofInput error)
  | .remote url (some payload) => return (payload, .remote url)
  | .remote url none => do
    match ← Load.ask (.remoteText url) with
    | .ok text => return (text, .remote url)
    | .error error => Load.fail (.fetchFailed url.text error)

/-- Load the manifest of a source. -/
def loadManifest (policy : OverridePolicy) (nesting : Nat) (source : Source) : Load Manifest := do
  let (text, location) ← readSource source
  let (tree, dialect) ← loadTree policy nesting text location
  match Manifest.ofTree tree (some dialect) with
  | .ok manifest => return manifest
  | .error error => Load.fail (.manifest location.text error)

end BuildManifest
