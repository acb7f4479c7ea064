import BuildManifest.Location.Path
import BuildManifest.Url.Parse

/-!
# Where manifests are

## What is here

* `Source` — where the manifest of a command is, as an argument names it.
* `Location` — where a manifest was found.  Its references are relative to it, and it tells
  whether a manifest is read within itself.
-/

set_option autoImplicit false

namespace BuildManifest

/-- Where the manifest of a command is. -/
inductive Source where
  /-- A file. -/
  | path (path : String)
  /-- The standard input. -/
  | standardInput
  /-- A URL, with its text if that is known already. -/
  | remote (url : Url) (payload : Option String)
  deriving Repr

namespace Source

/-- The source that an argument names. -/
def ofArgument (argument : String) : Source :=
  if argument = "-" then standardInput
  else
    match Url.remote? argument with
    | some url => remote url none
    | none => path argument

/-- A source as messages show it. -/
def text : Source → String
  | path text => text
  | standardInput => "<stdin>"
  | remote url _ => url.text

end Source

/-- Where a manifest was found. -/
inductive Location where
  /-- In a file. -/
  | file (path : String)
  /-- At a URL. -/
  | remote (url : Url)
  /-- In the standard input. -/
  | standardInput
  deriving DecidableEq, Repr

namespace Location

/-- A location as messages show it. -/
def text : Location → String
  | file path => path
  | remote url => url.text
  | standardInput => "<stdin>"

/-- Two locations are one. -/
def same : Location → Location → Bool
  | file a, file b => FilePath.same a b
  | remote a, remote b => a == b
  | standardInput, standardInput => true
  | _, _ => false

end Location

end BuildManifest
