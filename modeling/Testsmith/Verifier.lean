/-
# Verifying a test by a build

A build command is run in the project while the test stands in its place. It succeeds when it ends
with success, and its output holds the marker if one is set.

How commands run is an argument: a build may do anything to the tree.

Key definitions: `BuildEnd`, `Builder`, `Verifier`, `Verifier.argv`, `Verifier.verify`.
-/
import Testsmith.Decimal.Layout
import Testsmith.Repair
import Testsmith.Staging
import Testsmith.Text.Lines
import Testsmith.Text.Utf8

namespace Testsmith

/-- How a build ended. -/
inductive BuildEnd
  | exited (success : Bool) (output errors : ByteArray)
  | timedOut
  /-- The command could not be started, for this reason. -/
  | notStarted (reason : String)
  deriving DecidableEq

/-- A way to run a command with its arguments in a directory, within so many milliseconds. -/
abbrev Builder :=
  (directory : Path) → (timeout : Nat) → (program : String) → (arguments : List String) →
    FileTree → BuildEnd × FileTree

/-- A build command for one project. -/
structure Verifier where
  root : Path
  command : List String
  successMarker : Option String
  /-- The longest time for a build, in milliseconds. -/
  timeout : Nat
  deriving DecidableEq, Repr

namespace Verifier

/-- The text that stands for the name of the test class. -/
def placeholder : List Char := "\x7btest\x7d".toList

/-- The text with every occurrence of the placeholder replaced. `skip` characters of the text still
belong to the last one. -/
def substitute (name : List Char) : (skip : Nat) → List Char → List Char
  | _, [] => []
  | skip + 1, _ :: cs => substitute name skip cs
  | 0, c :: cs =>
    if placeholder.isPrefixOf (c :: cs) then name ++ substitute name (placeholder.length - 1) cs
    else c :: substitute name 0 cs

/-- The command for a test class. -/
def argv (command : List String) (testClass : String) : List String :=
  command.map fun a => String.ofList (substitute testClass.toList 0 a.toList)

/-- Milliseconds as a number of seconds. -/
def seconds (milliseconds : Nat) : Float :=
  Float.ofNat (milliseconds / 1000) + Float.ofNat (milliseconds % 1000 * 1000000) / 1000000000

/-- What a time that has run out is told by. -/
def timeoutLog (timeout : Nat) : String :=
  "verification timed out after " ++ FloatLayout.plain.write (seconds timeout) ++ "s"

/-- The result that the end of a build stands for. -/
def judge (v : Verifier) (program : String) : BuildEnd → Except VerifyError Verification
  | .notStarted reason => .error (.spawn (program ++ ": " ++ reason))
  | .timedOut => .ok ⟨false, timeoutLog v.timeout⟩
  | .exited success output errors =>
    let log := Text.decodeLossy output ++ Text.decodeLossy errors
    .ok ⟨success && v.successMarker.all fun m => Text.occursIn m.toList log.toList, log⟩

/-- Runs the build. -/
def build (v : Verifier) (run : Builder) (testClass : String) (t : FileTree) :
    Except VerifyError Verification × FileTree :=
  match argv v.command testClass with
  | [] => (.error (.spawn "verify command is empty"), t)
  | program :: arguments =>
    let (ended, t) := run v.root v.timeout program arguments t
    (v.judge program ended, t)

/-- Tries a test in its place. -/
def verify (v : Verifier) (run : Builder) (a : Artifact) (t : FileTree) :
    Except VerifyError Verification × FileTree :=
  match Staged.stage t a.path a.render.toUTF8 with
  | (.error e, t) => (.error (.io e), t)
  | (.ok staged, t) =>
    let (result, t) := v.build run a.testClass t
    match staged.putBack t with
    | (.error e, t) => (.error (.io e), t)
    | (.ok (), t) => (result, t)

end Verifier

end Testsmith
