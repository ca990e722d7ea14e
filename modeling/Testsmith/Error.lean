/-
# What can go wrong

Failures by their cause. An error of configuration stops a whole run; any other concerns one file.
The wording of each is in its `message`.

Key definitions: `IoError`, `ConfigError`, `SyntaxError`, `GenerationError`, `VerifyError`,
`RepairError`, `Error`, `Error.message`, `Error.isRunScoped`.
-/

namespace Testsmith

/-- Why an operation on files failed. -/
inductive IoError
  | notFound | alreadyThere | notDirectory | isDirectory | notEmpty | busy | denied | nameTooLong
  /-- A path holds a character that no path may hold. -/
  | nulInPath
  /-- There is no directory that another could be made in. -/
  | noTree
  /-- The content is no UTF-8 text. -/
  | notText
  /-- A failure known by its text alone. -/
  | other (text : String)
  deriving DecidableEq, Repr

/-- The failure in words, with its number where the system has one. -/
def IoError.parts : IoError → String × Option Nat
  | notFound => ("No such file or directory", some 2)
  | denied => ("Permission denied", some 13)
  | busy => ("Device or resource busy", some 16)
  | alreadyThere => ("File exists", some 17)
  | notDirectory => ("Not a directory", some 20)
  | isDirectory => ("Is a directory", some 21)
  | nameTooLong => ("File name too long", some 36)
  | notEmpty => ("Directory not empty", some 39)
  | nulInPath => ("file name contained an unexpected NUL byte", none)
  | noTree => ("failed to create whole tree", none)
  | notText => ("stream did not contain valid UTF-8", none)
  | other text => (text, none)

/-- The failure in words alone. -/
def IoError.reason (e : IoError) : String := e.parts.1

def IoError.message (e : IoError) : String :=
  e.reason ++ (e.parts.2.map fun n => " (os error " ++ toString n ++ ")").getD ""

inductive ConfigError
  /-- A path or file is not there. -/
  | notFound (what : String)
  /-- A value can be read and makes no sense. -/
  | invalid (what : String)
  /-- The text is no configuration. -/
  | unreadable (what : String)
  /-- The environment variable with the key is not set. -/
  | credentialMissing (name : String)
  deriving DecidableEq, Repr

def ConfigError.message : ConfigError → String
  | notFound what => "Not found: " ++ what
  | invalid what => "Invalid config: " ++ what
  | unreadable what => "Parse error: " ++ what
  | credentialMissing v => "Missing API credential: set the " ++ v ++ " environment variable"

/-- Why a source text could not be read at all. -/
inductive SyntaxError
  | noTree (what : String)
  | noGrammar (what : String)
  deriving DecidableEq, Repr

def SyntaxError.message : SyntaxError → String
  | noTree what => "Parse error: " ++ what
  | noGrammar what => "Tree-sitter error: " ++ what

inductive GenerationError
  | network (what : String)
  /-- The provider answered with a status that is no success. -/
  | api (status : Nat) (body : String)
  | unreadable (what : String)
  | config (what : String)
  /-- The answer holds nothing to use. -/
  | empty
  deriving DecidableEq, Repr

def GenerationError.message : GenerationError → String
  | network what => "Network error: " ++ what
  | api status body => "API error (HTTP " ++ toString status ++ "): " ++ body
  | unreadable what => "Response parse error: " ++ what
  | config what => "Provider configuration error: " ++ what
  | empty => "Empty or unusable response"

/-- Why a test could not be tried. A build that fails is no error. -/
inductive VerifyError
  /-- The build command could not be started. -/
  | spawn (what : String)
  /-- The test could not be put in place, or what was there could not be put back. -/
  | io (error : IoError)
  deriving DecidableEq, Repr

def VerifyError.message : VerifyError → String
  | spawn what => "Failed to run build command: " ++ what
  | io error => "IO error: " ++ error.message

/-- All attempts at a test failed. -/
structure RepairError where
  attempts : Nat
  /-- The log of the last attempt, if that was tried. -/
  lastLog : Option String
  deriving DecidableEq, Repr

def RepairError.message (e : RepairError) : String :=
  "No compilable test after " ++ toString e.attempts ++ " attempts"

inductive Error
  | config (error : ConfigError)
  | syntaxError (error : SyntaxError)
  | generation (error : GenerationError)
  | verify (error : VerifyError)
  | repair (error : RepairError)
  | io (error : IoError)
  deriving DecidableEq, Repr

namespace Error

def message : Error → String
  | config e => "Configuration error: " ++ e.message
  | syntaxError e => "Syntax error: " ++ e.message
  | generation e => "Generation error: " ++ e.message
  | verify e => "Verification error: " ++ e.message
  | repair e => "Repair error: " ++ e.message
  | io e => "IO error: " ++ e.message

/-- The message of the cause alone. -/
def causeMessage : Error → String
  | config e => e.message
  | syntaxError e => e.message
  | generation e => e.message
  | verify e => e.message
  | repair e => e.message
  | io e => e.message

/-- The error stops a run before it starts. -/
def isRunScoped : Error → Bool
  | config _ => true
  | _ => false

end Error

end Testsmith
