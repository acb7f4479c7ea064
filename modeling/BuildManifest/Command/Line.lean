import BuildManifest.Text.Infix

/-!
# Command lines

The arguments of the program as a command.

## What is here

* `Invocation`, `Command`, `Task` — what the program is asked to do.
* `Flag` — the options, with their names and where they may stand.
* `parseLine` — the reader.  Arguments are read from left to right, and the first thing that ends
  the reading decides: a fault, or a question about the program itself.
-/

set_option autoImplicit false

namespace BuildManifest

/-- How a manifest is written. -/
inductive OutputFormat where
  | yaml
  | json
  deriving DecidableEq, Repr

/-- Which manifest a command is about, and how it is resolved. -/
structure SourceArguments where
  /-- The manifest. -/
  source : String
  /-- The projects to keep. -/
  projects : List String := []
  /-- The libraries to keep. -/
  libraries : List String := []
  /-- Whether to pass over what can be passed over. -/
  force : Bool := false
  /-- Whether the directory of the checkouts stays. -/
  keepTemp : Bool := false
  /-- The override policy. -/
  allowOverride : Option String := none
  deriving DecidableEq, Repr

/-- What to do with a resolved manifest. -/
inductive Task where
  /-- Print it. -/
  | resolve (format : OutputFormat) (output : Option String)
  /-- List what is wrong with it. -/
  | validate
  /-- Print its package. -/
  | convert (output : Option String)
  deriving DecidableEq, Repr

/-- What the program is asked to do. -/
inductive Command where
  /-- Something about a manifest. -/
  | about (arguments : SourceArguments) (task : Task)
  /-- Print what completes command lines in a shell. -/
  | completions (shell : String)
  deriving DecidableEq, Repr

/-- A command and what goes for all commands. -/
structure Invocation where
  /-- The file of the settings. -/
  config : Option String := none
  /-- Whether to print JSON. -/
  json : Bool := false
  /-- The command. -/
  command : Command
  deriving DecidableEq, Repr

/-- The names of the commands. -/
inductive CommandName where
  | resolve
  | validate
  | convert
  | completions
  deriving DecidableEq, Repr

/-- The options. -/
inductive Flag where
  | config
  | json
  | verbose
  | trace
  | help
  | version
  | projects
  | libraries
  | force
  | keepTemp
  | allowOverride
  | format
  | output
  deriving DecidableEq, Repr

/-- What the arguments come to. -/
inductive LineResult where
  /-- A command. -/
  | run (invocation : Invocation)
  /-- A question for the version. -/
  | version
  /-- A question for help. -/
  | help
  /-- A fault. -/
  | fault
  deriving DecidableEq, Repr

namespace CommandName

/-- The commands by name. -/
def table : List (String × CommandName) :=
  [("resolve", .resolve), ("validate", .validate), ("convert", .convert),
    ("completions", .completions)]

end CommandName

namespace Flag

/-- The options by their long names. -/
def longNames : List (String × Flag) :=
  [("config", .config), ("json", .json), ("verbose", .verbose), ("trace", .trace),
    ("help", .help), ("version", .version), ("projects", .projects), ("libraries", .libraries),
    ("force", .force), ("keep-temp", .keepTemp), ("allow-override", .allowOverride),
    ("format", .format), ("output", .output)]

/-- The options by their short names. -/
def shortNames : List (Char × Flag) :=
  [('v', .verbose), ('h', .help), ('V', .version), ('o', .output)]

/-- Whether an option has a value. -/
def takesValue : Flag → Bool
  | .config | .projects | .libraries | .allowOverride | .format | .output => true
  | _ => false

/-- Whether an option may be given more than once. -/
def repeats : Flag → Bool
  | .projects | .libraries => true
  | _ => false

/-- The options that may stand everywhere. -/
def everywhere : List Flag := [.config, .json, .verbose, .trace, .help]

/-- The options of every command about a manifest. -/
def ofSource : List Flag := [.projects, .libraries, .force, .keepTemp, .allowOverride]

/-- The options that may stand after a command, or before any. -/
def allowed : Option CommandName → List Flag
  | none => everywhere ++ [.version]
  | some .resolve => everywhere ++ ofSource ++ [.format, .output]
  | some .validate => everywhere ++ ofSource
  | some .convert => everywhere ++ ofSource ++ [.output]
  | some .completions => everywhere

/-- Whether an option may have a value: files have names. -/
def accepts (flag : Flag) (value : String) : Bool :=
  match flag with
  | .format => ["yaml", "json"].contains value
  | .config | .output => value != ""
  | _ => true

end Flag

/-! ## Reading -/

/-- The options given so far, with their values. -/
abbrev Given := List (Flag × String)

namespace Given

/-- The values of an option. -/
def values (given : Given) (flag : Flag) : List String :=
  given.filterMap fun one => if one.1 = flag then some one.2 else none

/-- Whether an option is given. -/
def has (given : Given) (flag : Flag) : Bool := !(given.values flag).isEmpty

/-- The items of an option that takes lists. -/
def items (given : Given) (flag : Flag) : List String :=
  (given.values flag).flatMap fun value => (Text.splitAt ',' value.toList).map String.ofList

end Given

/-- What reading one argument comes to. -/
inductive Reading where
  /-- It ends the reading. -/
  | stop (result : LineResult)
  /-- The options now given, and the arguments that are left. -/
  | more (given : Given) (rest : List String)

/-- Take an option with its value. -/
def takeFlag (given : Given) (flag : Flag) (value : String) (rest : List String) : Reading :=
  if given.has flag && !flag.repeats then .stop .fault
  else if !flag.accepts value then .stop .fault
  else .more (given ++ [(flag, value)]) rest

/-- Whether an argument looks like an option. -/
def looksLikeFlag (argument : String) : Bool := argument.startsWith "-" && argument != "-"

/-- Take an option whose value is the next argument. -/
def takeNext (given : Given) (flag : Flag) : List String → Reading
  | value :: rest =>
    if looksLikeFlag value then .stop .fault else takeFlag given flag value rest
  | [] => .stop .fault

/-- Take an option that has no value. -/
def takePlain (given : Given) (flag : Flag) (rest : List String) : Reading :=
  match flag with
  | .help => .stop .help
  | .version => .stop .version
  | _ => takeFlag given flag "" rest

/-- Read an argument after its two dashes. -/
def readLong (place : Option CommandName) (given : Given) (name : List Char)
    (rest : List String) : Reading :=
  let key := String.ofList (name.takeWhile (· != '='))
  match (Flag.longNames.lookup key).filter (Flag.allowed place).contains with
  | none => .stop .fault
  | some flag =>
    match name.dropWhile (· != '=') with
    | _ :: value =>
      if flag.takesValue then takeFlag given flag (String.ofList value) rest else .stop .fault
    | [] => if flag.takesValue then takeNext given flag rest else takePlain given flag rest

/-- Read an argument after its dash: letters of options, the last of which may have a value. -/
def readShort (place : Option CommandName) (given : Given) (letters : List Char)
    (rest : List String) : Reading :=
  match letters with
  | [] => .more given rest
  | letter :: others =>
    match (Flag.shortNames.lookup letter).filter (Flag.allowed place).contains with
    | none => .stop .fault
    | some flag =>
      if flag.takesValue then
        match others with
        | [] => takeNext given flag rest
        | '=' :: value => takeFlag given flag (String.ofList value) rest
        | value => takeFlag given flag (String.ofList value) rest
      else
        match takePlain given flag rest with
        | .stop result => .stop result
        | .more given rest => readShort place given others rest

/-- Read an argument that looks like an option. -/
def readFlag (place : Option CommandName) (given : Given) (argument : String)
    (rest : List String) : Reading :=
  match argument.toList with
  | '-' :: '-' :: name => readLong place given name rest
  | '-' :: letters => readShort place given letters rest
  | _ => .stop .fault

/-- What is said by a question for help about a command. -/
def readHelp : List String → LineResult
  | [] => .help
  | [name] => if name == "help" || (CommandName.table.lookup name).isSome then .help else .fault
  | _ => .fault

/-- The shells that command lines can be completed in. -/
def shells : List String := ["bash", "elvish", "fish", "powershell", "zsh"]

/-- Whether a command may have an argument at its place. -/
def acceptsOperand (name : CommandName) (operand : String) : Bool :=
  name != .completions || shells.contains operand

/-- Read the arguments after a command: what is given, and the one argument that is no option. -/
def readOperands (name : CommandName) : Nat → Given → Option String → List String →
    Except LineResult (Given × Option String)
  | 0, _, _, _ => .error .fault
  | _ + 1, given, operand, [] => .ok (given, operand)
  | steps + 1, given, operand, argument :: rest =>
    if argument = "--" then
      match rest, operand with
      | [], _ => .ok (given, operand)
      | [only], none => if acceptsOperand name only then .ok (given, some only) else .error .fault
      | _, _ => .error .fault
    else if looksLikeFlag argument then
      match readFlag (some name) given argument rest with
      | .stop result => .error result
      | .more given rest => readOperands name steps given operand rest
    else if operand.isNone && acceptsOperand name argument then
      readOperands name steps given (some argument) rest
    else .error .fault

/-- The arguments about a manifest. -/
def sourceArguments (given : Given) (source : String) : SourceArguments where
  source := source
  projects := given.items .projects
  libraries := given.items .libraries
  force := given.has .force
  keepTemp := given.has .keepTemp
  allowOverride := (given.values .allowOverride).head?

/-- The command of a name with its arguments. -/
def commandOf (name : CommandName) (given : Given) (operand : String) : Command :=
  let source := sourceArguments given operand
  let output := (given.values .output).head?
  match name with
  | .resolve =>
    .about source
      (.resolve (if (given.values .format).contains "json" then .json else .yaml) output)
  | .validate => .about source .validate
  | .convert => .about source (.convert output)
  | .completions => .completions operand

/-- Read the arguments after a command whose name comes after the options `before`. -/
def readCommand (name : CommandName) (before : Given) (arguments : List String) : LineResult :=
  match readOperands name (arguments.length + 1) [] none arguments with
  | .error result => result
  | .ok (_, none) => .fault
  | .ok (given, some operand) =>
    .run
      { config := (given.values .config).head? <|> (before.values .config).head?
        json := given.has .json || before.has .json
        command := commandOf name given operand }

/-- Read the arguments before a command and then the command. -/
def readBefore : Nat → Given → List String → LineResult
  | 0, _, _ => .fault
  | _ + 1, _, [] => .fault
  | steps + 1, given, argument :: rest =>
    if argument = "--" then .fault
    else if looksLikeFlag argument then
      match readFlag none given argument rest with
      | .stop result => result
      | .more given rest => readBefore steps given rest
    else if argument = "help" then readHelp rest
    else
      match CommandName.table.lookup argument with
      | some name => readCommand name given rest
      | none => .fault

/-- Read the arguments of the program. -/
def parseLine (arguments : List String) : LineResult :=
  readBefore (arguments.length + 1) [] arguments

end BuildManifest
