import BuildManifest.Fetch.Error
import BuildManifest.Manifest.Download

/-!
# Checkouts

What is run to check out a download.  Its values come from manifests, so none of them may be taken
for an option.

## What is here

* `GitCommand` — the arguments of one command.
* `checkoutCommands` — the commands of a checkout, or why there is none.
* `runCheckout` — the commands run in order, until one fails.
-/

set_option autoImplicit false

namespace BuildManifest

/-- One command. -/
structure GitCommand where
  /-- Its arguments. -/
  arguments : List String
  /-- The directory it runs in, unless that is the working directory. -/
  directory : Option String := none
  deriving DecidableEq, Repr

/-- How a command fails. -/
inductive CommandFailure where
  /-- The program does not start. -/
  | notStarted (program reason : String)
  /-- The program reports a failure and says something about it. -/
  | reported (said : String)
  deriving DecidableEq, Repr

/-- The wording of a failure. -/
def CommandFailure.message : CommandFailure → String
  | .notStarted program reason => "failed to run " ++ program ++ ": " ++ reason
  | .reported said => Text.trimmed said

/-- Only one system is supported, and it is assumed when none is given. -/
def checkSystem : Option DownloadKind → Except FetchError Unit
  | none => .ok ()
  | some .file => .error (.unsupportedSystem "file")
  | some (.checkout system) =>
    if system = "git" then .ok () else .error (.unsupportedSystem system)

/-- A value must not look like an option. -/
def checkPlain (field : String) : Option String → Except FetchError Unit
  | none => .ok ()
  | some value =>
    if value.toList.head? = some '-' then .error (.optionLike field value) else .ok ()

/-- The address of a download that can be checked out. -/
def checkoutUrl (download : Download) : Except FetchError String := do
  checkSystem download.kind
  match download.url with
  | none => .error .missingUrl
  | some url =>
    checkPlain "url" url
    checkPlain "branch" download.branch
    checkPlain "tag" download.tag
    checkPlain "revision" download.revision
    return url

/-- The command that clones a branch, a tag or the default branch. -/
def cloneCommand (download : Download) (url destination : String) : GitCommand :=
  let state := match download.branch <|> download.tag with
    | some name => ["--branch", name]
    | none => []
  { arguments := ["clone", "--quiet"] ++ state ++ ["--", url, destination] }

/-- The commands that check out the revision, if there is one. -/
def revisionCommands (download : Download) (destination : String) : List GitCommand :=
  match download.revision with
  | some revision =>
    [{ arguments := ["checkout", "--quiet", "--detach", revision], directory := some destination }]
  | none => []

/-- The address and the commands of a checkout. -/
def checkoutCommands (download : Download) (destination : String) :
    Except FetchError (String × List GitCommand) :=
  (checkoutUrl download).map fun url =>
    (url, cloneCommand download url destination :: revisionCommands download destination)

/-- Run commands in order until one fails, and say which were run. -/
def runCommands (fails : GitCommand → Option CommandFailure) :
    List GitCommand → List GitCommand × Option CommandFailure
  | [] => ([], none)
  | command :: rest =>
    match fails command with
    | some failure => ([command], some failure)
    | none =>
      let (ran, failure) := runCommands fails rest
      (command :: ran, failure)

/-- Check out a download, where `fails` tells how a command fails.  The commands that were run, and
the directory of the checkout. -/
def runCheckout (fails : GitCommand → Option CommandFailure) (download : Download)
    (destination : String) : List GitCommand × Except FetchError String :=
  match checkoutCommands download destination with
  | .error error => ([], .error error)
  | .ok (url, commands) =>
    match runCommands fails commands with
    | (ran, none) => (ran, .ok destination)
    | (ran, some failure) => (ran, .error (.checkout url failure.message))

end BuildManifest
