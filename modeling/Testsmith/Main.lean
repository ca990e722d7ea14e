/-
# The program

Reads the arguments and the project, does what is asked, writes back what changed and says what came
of it. Builds are done by the library's own shell. The program has no network of its own: its requests
stay unanswered.
-/
import Std.Time.DateTime
import Testsmith.Cli.Command
import Testsmith.Disk
import Testsmith.Shell.Run

namespace Testsmith.Program

/-- A number with at least so many digits. -/
def digits (width n : Nat) : String :=
  let s := toString n
  String.ofList (List.replicate (width - s.length) '0') ++ s

/-- The time now, in the world's time zone. -/
def timeNow : IO String := do
  let now := Std.Time.DateTime.ofTimestampWithZone (← Std.Time.Timestamp.now) Std.Time.TimeZone.UTC
  let part (width : Nat) (n : Int) : String := digits width n.toNat
  return part 4 now.year ++ "-" ++ part 2 now.month.val ++ "-" ++ part 2 now.day.val ++ "T" ++
    part 2 now.hour.val ++ ":" ++ part 2 now.minute.val ++ ":" ++ part 2 now.second.val ++ "." ++
    part 9 now.nanosecond.val ++ "Z"

/-- A random name for a run. -/
def randomId : IO String := do
  let bytes ← IO.getRandomBytes 16
  return RunStamp.idOf bytes.toList

/-- The real path that a text means, if it means one. -/
def realPath? (path : String) : IO (Option String) := do
  try
    return some (← IO.FS.realPath path).toString
  catch _ => return none

/-- Does a command on the disk. -/
def runCommand (command : Cli.Command) : IO UInt32 := do
  let directory := (← IO.currentDir).toString
  let place ← realPath? command.path
  let before ← match place with
    | some path => Disk.load path
    | none => pure (Disk.withDirectories .empty (Disk.locationOf directory))
  let command := match place with
    | some path => command.withPath path
    | none => command
  let keyName := Cli.keyVariable? ⟨directory⟩ command.path before
  let key ← match keyName with
    | some name => IO.getEnv name
    | none => pure none
  let around : Cli.Surroundings Unit :=
    { directory := ⟨directory⟩
      environment := fun name => if some name = keyName then key else none
      transport := Http.unreachable
      builder := Shell.builder }
  let startedAt ← timeNow
  let start ← IO.monoMsNow
  let (answer, after, ()) := command.run around (before, ())
  Disk.save before after
  let stamp : RunStamp := ⟨← randomId, startedAt, (← IO.monoMsNow) - start⟩
  IO.print (answer.output.render stamp)
  match answer.failure with
  | some f => IO.eprintln ("Error: " ++ f.message)
  | none => pure ()
  return answer.exitCode.toUInt32

end Testsmith.Program

open Testsmith in
/-- The program. -/
def main (arguments : List String) : IO UInt32 := do
  match Cli.Request.parse arguments with
  | .error e =>
    IO.eprintln ("error: " ++ e.message)
    return Cli.usageExitCode.toUInt32
  | .ok .help =>
    IO.print Cli.helpText
    return 0
  | .ok .version =>
    IO.print Cli.versionText
    return 0
  | .ok (.run command _ _) => Program.runCommand command
