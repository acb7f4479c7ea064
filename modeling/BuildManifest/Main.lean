import BuildManifest.Command.Report
import BuildManifest.Fetch.Checkout
import BuildManifest.Fetch.Remote

/-!
# The program

The outer layer: arguments, files and streams of this machine.  What is done with them is decided
elsewhere.  No program is started from here and no server is reached, so that checkouts and texts
from servers are answered with errors.
-/

set_option autoImplicit false

namespace BuildManifest.Program

/-- What is said about an error of the system. -/
def reasonOf : IO.Error → String
  | .noFileOrDirectory _ _ _ => "No such file or directory (os error 2)"
  | .permissionDenied _ _ _ => "Permission denied (os error 13)"
  | .inappropriateType _ _ _ => "Is a directory (os error 21)"
  | other => toString other

/-- Whether an error says that there is nothing. -/
def isMissing : IO.Error → Bool
  | .noFileOrDirectory _ _ _ => true
  | _ => false

/-- The text of bytes. -/
def textOf (bytes : ByteArray) : Except String String :=
  match String.fromUTF8? bytes with
  | some text => .ok text
  | none => .error notUtf8

/-- Read a file. -/
def readFile (path : String) : IO (Except FetchError LocalFile) := do
  try
    match textOf (← IO.FS.readBinFile path) with
    | .error message => return .error (.io false message)
    | .ok text => return .ok ⟨text, (← IO.FS.realPath path).toString⟩
  catch error =>
    return .error (if isMissing error then .notFound path else .io false (reasonOf error))

/-- Read the text at a URL. -/
def readUrl (url : Url) : IO (Except FetchError String) := do
  match remoteTarget url with
  | .error error => return .error error
  | .ok (.server _) => return .error (.http "io: Network is unreachable (os error 101)")
  | .ok (.file path) => return (← readFile path).map LocalFile.text

/-- The bytes of a stream, up to its end. -/
partial def readBytes (stream : IO.FS.Stream) (read : ByteArray) : IO ByteArray := do
  let more ← stream.read 65536
  if more.isEmpty then return read
  readBytes stream (read ++ more)

/-- Answer a request.  The directories made for checkouts are noted in `made`. -/
def answer (made : IO.Ref (List String)) (settings : Settings) :
    (request : Request) → IO request.Answer
  | .localFile path => readFile path
  | .remoteText url => readUrl url
  | .checkout download destination =>
    let fails (_ : GitCommand) : Option CommandFailure :=
      some (.notStarted settings.fetch.gitProgram "No such file or directory (os error 2)")
    return (runCheckout fails download destination).2
  | .stagingDirectory => do
    try
      let directory := (← IO.FS.createTempDir).toString
      made.modify (directory :: ·)
      return .ok directory
    catch error =>
      return .error (reasonOf error)
  | .standardInput => return readInput (← readBytes (← IO.getStdin) .empty).toList

/-- Say a warning.  A directory that is to stay is no longer noted. -/
def hear (made : IO.Ref (List String)) (warning : Warning) : IO Unit := do
  if let .keepingDirectory directory := warning then made.modify (·.erase directory)
  (← IO.getStderr).putStr warning.line

/-- The settings of the user. -/
def readSettings (config : Option String) : IO (Except SettingsError Settings) := do
  let read (path : String) : IO (Except SettingsError Settings) := do
    let content ← try pure (textOf (← IO.FS.readBinFile path))
      catch error => pure (.error (reasonOf error))
    return settingsOfFile path content
  match config with
  | some path => read path
  | none =>
    match ← IO.getEnv "HOME" with
    | none => return .ok {}
    | some home =>
      try
        discard (IO.FS.readBinFile (settingsPath home))
        read (settingsPath home)
      catch _ => return .ok {}

/-- Write a file. -/
def write (delivery : Delivery) : IO (Except String Unit) := do
  try
    IO.FS.writeFile delivery.path delivery.text
    return .ok ()
  catch error =>
    return .error (reasonOf error)

/-- Carry out a report. -/
def finish (report : Report) : IO UInt32 := do
  let report ← match report.delivery with
    | some delivery => pure (report.afterDelivery delivery (← write delivery))
    | none => pure report
  (← IO.getStdout).putStr report.stdout
  (← IO.getStderr).putStr report.stderr
  return report.status.toUInt32

/-- Carry out a command. -/
def carryOut (invocation : Invocation) : IO UInt32 := do
  match ← readSettings invocation.config with
  | .error error => finish (Report.failed Report.failure error.message)
  | .ok settings =>
    let made ← IO.mkRef []
    let report ← (runCommand settings invocation).perform (answer made settings) (hear made)
    for directory in ← made.get do
      IO.FS.removeDirAll directory
    finish report

/-- Carry out the arguments. -/
def run (arguments : List String) : IO UInt32 := do
  match parseLine arguments with
  | .version => finish versionReport
  | .help => finish helpReport
  | .fault => finish faultReport
  | .run invocation => carryOut invocation

end BuildManifest.Program

/-- The program. -/
def main (arguments : List String) : IO UInt32 := BuildManifest.Program.run arguments
