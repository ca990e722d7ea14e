/-
# How a command fails

Why a command was not done, in words, and the number that the program ends with then.

Key definitions: `Cli.Failure`, `Cli.Failure.message`, `Cli.Failure.exitCode`.
-/
import Testsmith.Error
import Testsmith.Glob.Pattern
import Testsmith.Path
import Testsmith.Text.Lines

namespace Testsmith.Cli

inductive Failure
  /-- The path of the project leads nowhere. -/
  | unresolved (path : String) (error : IoError)
  /-- Something went wrong with the project, while doing what is named first. -/
  | work (doing : String) (error : Error)
  /-- The pattern that chooses files is none. -/
  | pattern (text : String) (error : Glob.PatternError)
  /-- There is a configuration already. -/
  | configured (path : Path)
  /-- A file or directory could not be made, which is named first. -/
  | unwritten (what : String) (error : IoError)
  /-- Some files of a run have no test. -/
  | incomplete (failed total : Nat)
  /-- A path that is no text was to be written as JSON. -/
  | foreignPath
  /-- A path that is no text was to become part of a value, which breaks the program off. -/
  | foreignValue
  /-- A sum of token counts does not fit, which breaks the program off. -/
  | overflow
  deriving DecidableEq, Repr

/-- The number that the program ends with when it is broken off. -/
def panicExitCode : Nat := 101

namespace Failure

/-- The failure and its causes. -/
def message : Failure → String
  | unresolved path e => "Cannot resolve path: " ++ path ++ ": " ++ e.message
  | work doing e => doing ++ ": " ++ e.message ++ ": " ++ e.causeMessage
  | pattern text e => "Invalid --only pattern: " ++ text ++ ": " ++ e.message
  | configured path =>
    "Scribe config already exists at " ++ path.text ++ ". Use --force to overwrite."
  | unwritten what e => what ++ ": " ++ e.message
  | incomplete failed total =>
    toString failed ++ " of " ++ toString total ++ " files failed; see the summary above"
  | foreignPath | foreignValue => "path contains invalid UTF-8 characters"
  | overflow => "a count of tokens is too large"

/-- The text occurs in the other one, whose letters may be in either case. -/
def mentions (word text : String) : Bool :=
  Text.occursIn word.toList (text.toList.map Char.toLower)

/-- The exit code for a failure that is known by its words. -/
def exitCodeOfText (text : String) : Nat :=
  if mentions "cannot resolve path" text then 3
  else if mentions "config" text then 2
  else 1

/-- The exit code for an error of the library. -/
def exitCodeOfError : Error → Nat
  | .config (.notFound _) => 3
  | .config _ => 2
  | _ => 1

def exitCode : Failure → Nat
  | work _ e => exitCodeOfError e
  | incomplete .. => 10
  | foreignValue | overflow => panicExitCode
  | f => exitCodeOfText f.message

end Failure

end Testsmith.Cli
