/-
# Arguments of the command line

A command line is some options for every command, the name of a command, and what that command takes:
a path, and options of its own. It is read from left to right, and the first thing that is wrong, or
asks for help or the version, decides.

Key definitions: `Cli.Command`, `Cli.Request`, `Cli.UsageError`, `Cli.Request.parse`.
-/

namespace Testsmith.Cli

/-- What can be asked of the program. -/
inductive Command
  /-- A configuration is written. -/
  | init (path : String) (force : Bool)
  /-- The types of a project are listed. -/
  | index (path : String) (json : Bool)
  /-- A run is planned. -/
  | plan (path : String) (json : Bool) (only : Option String)
  /-- Tests are generated. -/
  | generate (path : String) (json : Bool) (only : Option String)
  deriving DecidableEq, Repr

/-- The directory that a command works on. -/
def Command.path : Command → String
  | init path _ | index path _ | plan path _ _ | generate path _ _ => path

/-- The command for another directory. -/
def Command.withPath (path : String) : Command → Command
  | init _ force => init path force
  | index _ json => index path json
  | plan _ json only => plan path json only
  | generate _ json only => generate path json only

/-- A command line that can be followed. -/
inductive Request
  | help
  | version
  | run (command : Command) (quiet : Bool) (verbosity : Nat)
  deriving DecidableEq, Repr

inductive UsageError
  | noCommand
  | unknownCommand (name : String)
  | unexpected (argument : String)
  /-- An option that takes no value has one. -/
  | unwantedValue (option : String)
  | missingValue (option : String)
  | repeated (option : String)
  | emptyPath
  deriving DecidableEq, Repr

def UsageError.message : UsageError → String
  | noCommand => "a command is missing"
  | unknownCommand name => "unknown command: " ++ name
  | unexpected argument => "unexpected argument: " ++ argument
  | unwantedValue option => option ++ " takes no value"
  | missingValue option => option ++ " needs a value"
  | repeated option => option ++ " is given more than once"
  | emptyPath => "the path is empty"

/-- The names of the commands. -/
inductive Name
  | init | index | plan | generate
  deriving DecidableEq, Repr

def Name.ofText? (s : String) : Option Name :=
  if s == "init" then some .init
  else if s == "index" then some .index
  else if s == "plan" then some .plan
  else if s == "generate" then some .generate
  else none

/-- The options that are there or not. -/
inductive Switch
  | quiet | json | force
  deriving DecidableEq, Repr

def Switch.option : Switch → String
  | quiet => "--quiet"
  | json => "--json"
  | force => "--force"

/-- What was given, to the program or to one command. -/
structure Given where
  verbosity : Nat := 0
  switches : List Switch := []
  path : Option String := none
  only : Option String := none
  deriving DecidableEq, Repr

/-- The level at which an argument stands: before the name of a command, or after it. -/
abbrev Level := Option Name

/-- The switches of a level. -/
def takes (level : Level) (s : Switch) : Bool :=
  match s, level with
  | .quiet, _ => true
  | .json, some n => n != .init
  | .force, some n => n == .init
  | _, none => false

/-- The level has the option that chooses files. -/
def takesOnly (level : Level) : Bool := level == some .plan || level == some .generate

/-- Why reading stops before the end. -/
inductive Halt
  | help
  | version
  | wrong (error : UsageError)
  deriving DecidableEq, Repr

namespace Given

def add (g : Given) (s : Switch) : Except Halt Given :=
  if g.switches.contains s then .error (.wrong (.repeated s.option))
  else .ok { g with switches := s :: g.switches }

def addOnly (g : Given) (value : String) : Except Halt Given :=
  match g.only with
  | some _ => .error (.wrong (.repeated "--only"))
  | none => .ok { g with only := some value }

def addPath (g : Given) (value : String) : Except Halt Given :=
  match g.path with
  | some _ => .error (.wrong (.unexpected value))
  | none => if value.isEmpty then .error (.wrong .emptyPath) else .ok { g with path := some value }

/-- One letter after a dash. -/
def addLetter (level : Level) (g : Given) (c : Char) : Except Halt Given :=
  if c = 'v' then .ok { g with verbosity := g.verbosity + 1 }
  else if c = 'q' then g.add .quiet
  else if c = 'h' then .error .help
  else if c = 'V' && level.isNone then .error .version
  else .error (.wrong (.unexpected (String.ofList ['-', c])))

/-- A switch, if the level takes it. -/
def addSwitch (level : Level) (g : Given) (s : Switch) : Except Halt Given :=
  if takes level s then g.add s else .error (.wrong (.unexpected s.option))

/-- An option by its name, with no value of its own. -/
def addNamed (level : Level) (g : Given) (name : String) : Except Halt Given :=
  if name == "--verbose" then .ok { g with verbosity := g.verbosity + 1 }
  else if name == "--quiet" then g.addSwitch level .quiet
  else if name == "--json" then g.addSwitch level .json
  else if name == "--force" then g.addSwitch level .force
  else if name == "--help" then .error .help
  else if name == "--version" && level.isNone then .error .version
  else .error (.wrong (.unexpected name))

/-- An option with a value in the same argument. -/
def addValued (level : Level) (g : Given) (name value : String) : Except Halt Given :=
  if name == "--only" && takesOnly level then g.addOnly value
  else
    match g.addNamed level name with
    | .error (.wrong e) => .error (.wrong e)
    | _ => .error (.wrong (.unwantedValue name))

end Given

/-- The name and the value in an option, at the first equals sign. -/
def splitValue (argument : String) : String × Option String :=
  let cs := argument.toList
  let name := String.ofList (cs.takeWhile (· != '='))
  match cs.dropWhile (· != '=') with
  | _ :: value => (name, some (String.ofList value))
  | [] => (name, none)

/-- The argument is an option. A dash alone is none. -/
def isOption (argument : String) : Bool := argument.startsWith "-" && argument != "-"

/-- One argument that is an option. -/
def readOption (level : Level) (g : Given) (argument : String) : Except Halt Given :=
  if argument.startsWith "--" then
    match splitValue argument with
    | (name, none) => g.addNamed level name
    | (name, some value) => g.addValued level name value
  else (argument.toList.drop 1).foldlM (Given.addLetter level) g

/-- What stands after the name of a command. -/
def readCommand (name : Name) : Given → List String → Except Halt Given
  | g, [] => .ok g
  | g, "--" :: rest => rest.foldlM Given.addPath g
  | g, "--only" :: rest =>
    if takesOnly (some name) then
      match rest with
      | value :: rest =>
        if isOption value then .error (.wrong (.missingValue "--only"))
        else g.addOnly value >>= fun g => readCommand name g rest
      | [] => .error (.wrong (.missingValue "--only"))
    else .error (.wrong (.unexpected "--only"))
  | g, argument :: rest => do
    let g ← if isOption argument then readOption (some name) g argument else g.addPath argument
    readCommand name g rest

/-- The command that was given to the program. -/
def commandOf (name : Name) (g : Given) : Command :=
  let path := g.path.getD "."
  match name with
  | .init => .init path (g.switches.contains .force)
  | .index => .index path (g.switches.contains .json)
  | .plan => .plan path (g.switches.contains .json) g.only
  | .generate => .generate path (g.switches.contains .json) g.only

/-- What help is asked about: nothing, or one command. Commands have no commands of their own. -/
def readHelp : List String → Halt
  | [] => .help
  | topic :: more =>
    if (Name.ofText? topic).isSome || topic == "help" then
      match more with
      | [] => .help
      | other :: _ => .wrong (.unknownCommand other)
    else .wrong (.unknownCommand topic)

/-- A whole command line. -/
def readAll : Given → List String → Except Halt Request
  | _, [] => .error (.wrong .noCommand)
  | g, argument :: rest =>
    if argument == "--" then
      .error (.wrong (match rest with | [] => .noCommand | a :: _ => .unexpected a))
    else if isOption argument then do
      let g ← readOption none g argument
      readAll g rest
    else if argument == "help" then .error (readHelp rest)
    else
      match Name.ofText? argument with
      | none => .error (.wrong (.unknownCommand argument))
      | some name => do
        let own ← readCommand name {} rest
        return .run (commandOf name own)
          (g.switches.contains .quiet || own.switches.contains .quiet) (max g.verbosity own.verbosity)

/-- The request that arguments state. -/
def Request.parse (arguments : List String) : Except UsageError Request :=
  match readAll {} arguments with
  | .ok r => .ok r
  | .error .help => .ok .help
  | .error .version => .ok .version
  | .error (.wrong e) => .error e

end Testsmith.Cli
