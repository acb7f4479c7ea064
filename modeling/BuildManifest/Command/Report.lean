import BuildManifest.Command.Line
import BuildManifest.Command.Settings
import BuildManifest.Manifest.ToTree
import BuildManifest.Package.Convert
import BuildManifest.Package.Text
import BuildManifest.Yaml.Printer

/-!
# Reports

What the program prints, writes and returns.

## What is here

* `Report` — the two streams, the exit status and a file to write.
* `optionsFor`, `selectionFor` — what a command line means for resolving.
* `runCommand` — a command carried out.
* `versionReport`, `helpReport`, `faultReport` — what is said when there is no command.
-/

set_option autoImplicit false

namespace BuildManifest

/-- A text that goes into a file. -/
structure Delivery where
  /-- The file. -/
  path : String
  /-- The text. -/
  text : String
  /-- What is said once it is written. -/
  said : String

/-- What the program does at its end. -/
structure Report where
  /-- The standard output. -/
  stdout : String := ""
  /-- The standard error, after all warnings. -/
  stderr : String := ""
  /-- The exit status. -/
  status : Nat := 0
  /-- A file to write before anything else. -/
  delivery : Option Delivery := none

namespace Report

/-- The exit status of success. -/
def success : Nat := 0

/-- The exit status of failures that are not those below. -/
def failure : Nat := 1

/-- The exit status when something is wrong with a manifest or with the command line. -/
def manifestFailure : Nat := 2

/-- The exit status when something cannot be fetched. -/
def fetchFailure : Nat := 3

/-- A failure with its message. -/
def failed (status : Nat) (message : String) : Report :=
  { stderr := "error: " ++ message ++ "\n", status }

/-- A text with a line break at its end. -/
def terminated (text : String) : String := if text.endsWith "\n" then text else text ++ "\n"

/-- A report that prints a text or puts it into a file. -/
def deliver (output : Option String) (text : String) (said : String → String) : Report :=
  match output with
  | some path => { delivery := some ⟨path, terminated text, said path⟩ }
  | none => { stdout := terminated text }

/-- The report when its file could be written or not. -/
def afterDelivery (report : Report) (delivery : Delivery) : Except String Unit → Report
  | .ok _ => { report with stderr := report.stderr ++ delivery.said, delivery := none }
  | .error reason =>
    { report with
      stderr := report.stderr ++ "error: failed to write " ++ delivery.path ++ ": " ++ reason ++
        "\n"
      status := failure
      delivery := none }

/-- The report after something else was said. -/
def after (said : String) (report : Report) : Report :=
  { report with stderr := said ++ report.stderr }

end Report

/-- The exit status of an error. -/
def ResolveError.status : ResolveError → Nat
  | .fetchFailed _ _ | .missingInclude _ => Report.fetchFailure
  | .manifest _ _ | .invalid _ _ | .cyclicInclude _ | .unsafeInclude _ | .noInput =>
    Report.manifestFailure
  | .nestedTooDeeply | .io _ => Report.failure

/-- A character as a terminal may safely show it: one that might be a command to it is written as
its number. -/
def terminalText (c : Char) : String :=
  let digits := String.ofList (Text.hexDigits 2 c.toNat)
  if ['\x07', '\x08', '\x0c', '\x1b', '\x7f'].contains c then "\\x" ++ digits
  else if 0x80 ≤ c.toNat ∧ c.toNat ≤ 0x9F then "\\u\x7b" ++ digits ++ "\x7d"
  else String.singleton c

/-- A warning as a line of the standard error. -/
def Warning.line (warning : Warning) : String :=
  " WARN " ++ String.join (warning.message.toList.map terminalText) ++ "\n"

/-! ## What a command line asks for -/

/-- How a command resolves its manifest: as the settings say, unless its arguments say more. -/
def optionsFor (settings : Settings) (arguments : SourceArguments) :
    Except String ResolveOptions := do
  let options ← settings.resolveOptions
  let policy ← match arguments.allowOverride with
    | none => pure options.policy
    | some text =>
      match OverridePolicy.ofText? text with
      | some policy => pure policy
      | none => throw (OverridePolicy.notPolicy text)
  return { options with
    check := { options.check with force := options.check.force || arguments.force }
    keepStaging := options.keepStaging || arguments.keepTemp
    policy }

/-- The entries to keep, if any are named. -/
def selectionFor (arguments : SourceArguments) : Option Selection :=
  if arguments.projects.isEmpty && arguments.libraries.isEmpty then none
  else
    some ⟨.ofNames (arguments.projects.map Text.trimmed),
      .ofNames (arguments.libraries.map Text.trimmed)⟩

/-! ## Reports of commands -/

/-- What is said about a directory that stays. -/
def keptNote (resolution : Resolution) : String :=
  match resolution.keptDirectory with
  | some directory => "kept temporary directory: " ++ directory ++ "\n"
  | none => ""

/-- The text of a manifest. -/
def manifestText (manifest : Manifest) : OutputFormat → Except String String
  | .json =>
    match printJson manifest.toTree with
    | .ok text => .ok text
    | .error error => .error ("JSON serialization failed: " ++ error.message)
  | .yaml =>
    match Yaml.printYaml manifest.toTree with
    | .ok text => .ok text
    | .error fault => .error ("YAML serialization failed: " ++ fault.message)

/-- A resolved manifest, printed. -/
def resolveReport (format : OutputFormat) (output : Option String) (resolution : Resolution) :
    Report :=
  match manifestText resolution.manifest format with
  | .ok text => Report.deliver output text fun _ => ""
  | .error message => Report.failed Report.failure message

/-- The package of a resolved manifest, printed. -/
def convertReport (output : Option String) (resolution : Resolution) : Report :=
  match resolution.manifest.toPackage.toJson with
  | .ok text => Report.deliver output text fun path => "wrote " ++ path ++ "\n"
  | .error error => Report.failed Report.failure error.message

/-- A JSON object, printed. -/
def printObject (entries : Mapping) (status : Nat) : Report :=
  match printJson (.mapping entries) with
  | .ok text => { stdout := text ++ "\n", status }
  | .error error =>
    Report.failed Report.failure ("JSON serialization failed: " ++ error.message)

/-- The report on a manifest without faults. -/
def soundReport (json : Bool) (resolution : Resolution) : Report :=
  let projects := resolution.manifest.projects.size
  let libraries := resolution.manifest.libraries.size
  if json then
    printObject
      [(.string "errors", .sequence []), (.string "libraries", .number (.int libraries)),
        (.string "projects", .number (.int projects)),
        (.string "source", .string resolution.origin), (.string "valid", .bool true)]
      Report.success
  else
    { stdout := "ok " ++ resolution.origin ++ " (" ++ toString projects ++ " projects, " ++
        toString libraries ++ " libraries)\n" }

/-- The report on a manifest with faults. -/
def faultyReport (json : Bool) (context : String) (violations : List Violation) : Report :=
  if json then
    printObject
      [(.string "errors", .sequence (violations.map fun one => .string one.message)),
        (.string "source", .string context), (.string "valid", .bool false)]
      Report.manifestFailure
  else
    { stdout := "invalid " ++ context ++ ": " ++ toString violations.length ++ " problem(s)\n" ++
        String.join (violations.map fun one => "  - " ++ one.message ++ "\n")
      status := Report.manifestFailure }

/-- What completes command lines in a shell: the names of the commands. -/
def completionScript (shell : String) : String :=
  let names := String.intercalate " " (CommandName.table.map Prod.fst ++ ["help"])
  match shell with
  | "zsh" => "#compdef makespec\ncompadd " ++ names ++ "\n"
  | "fish" => "complete -c makespec -n __fish_use_subcommand -f -a '" ++ names ++ "'\n"
  | _ => "complete -W '" ++ names ++ "' makespec\n"

/-- The report of a task when its manifest has been resolved. -/
def Task.report (json : Bool) (resolution : Resolution) : Task → Report
  | .resolve format output => resolveReport (if json then .json else format) output resolution
  | .validate => soundReport json resolution
  | .convert output => convertReport output resolution

/-- The report of a task when its manifest could not be resolved. -/
def Task.failureReport (json : Bool) (error : ResolveError) (task : Task) : Report :=
  match task, error with
  | .validate, .invalid context violations => faultyReport json context violations
  | _, _ => Report.failed error.status error.message

/-- Resolve the manifest of a task and report. -/
def runTask (settings : Settings) (json : Bool) (arguments : SourceArguments) (task : Task) :
    Dialogue Report :=
  match optionsFor settings arguments with
  | .error message => return Report.failed Report.failure message
  | .ok options => do
    match ← resolve options [] (Source.ofArgument arguments.source) (selectionFor arguments) with
    | .ok resolution => return (task.report json resolution).after (keptNote resolution)
    | .error error => return task.failureReport json error

/-- Carry out a command. -/
def runCommand (settings : Settings) (invocation : Invocation) : Dialogue Report :=
  match invocation.command with
  | .about arguments task => runTask settings invocation.json arguments task
  | .completions shell => return { stdout := completionScript shell }

/-! ## Reports without a command -/

/-- How to use the program. -/
def usage : String :=
  "Usage: makespec [OPTIONS] <COMMAND>\n\nCommands: " ++
    String.intercalate ", " (CommandName.table.map Prod.fst) ++ "\nOptions: " ++
    String.intercalate ", " (Flag.longNames.map fun entry => "--" ++ entry.1) ++ "\n"

/-- The answer to a question for the version. -/
def versionReport : Report := { stdout := "makespec " ++ programVersion ++ "\n" }

/-- The answer to a question for help. -/
def helpReport : Report := { stdout := usage }

/-- The answer to arguments that are no command. -/
def faultReport : Report :=
  { stderr := "error: these arguments are not understood\n\n" ++ usage
    status := Report.manifestFailure }

end BuildManifest
