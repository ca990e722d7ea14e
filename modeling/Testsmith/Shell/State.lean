/-
# What commands work on

A command finds a tree, parameters and an input, writes to two streams, and takes time.

Key definitions: `Shell.State`, `Shell.Wiring`, `Shell.Effect`, `Effect.route`, `Shell.Stop`.
-/
import Testsmith.FileTree
import Testsmith.Shell.Syntax
import Testsmith.Text.Utf8

namespace Testsmith.Shell

/-- What a command may read. -/
structure Input where
  bytes : ByteArray := .empty
  /-- It is a file. -/
  isFile : Bool := false

/-- Where what is written to a stream goes. -/
inductive Target
  | stream (s : Stream)
  | file (p : Path)
  | nowhere

/-- The targets of descriptors. -/
structure Wiring where
  targets : List (Nat × Target) := [(1, .stream .output), (2, .stream .errors)]

namespace Wiring

def target? (w : Wiring) (descriptor : Nat) : Option Target := w.targets.lookup descriptor

def set (w : Wiring) (descriptor : Nat) (t : Target) : Wiring := ⟨(descriptor, t) :: w.targets⟩

def close (w : Wiring) (descriptor : Nat) : Wiring := ⟨w.targets.filter (·.1 ≠ descriptor)⟩

/-- Where a stream goes. -/
def ofStream (w : Wiring) : Stream → Target
  | .output => (w.target? 1).getD .nowhere
  | .errors => (w.target? 2).getD .nowhere

end Wiring

/-- A command that runs beside others: what it writes, the time that is left when it ends, whether it
ends in time, and whether what the script writes goes on until then. -/
structure Job where
  written : List (Stream × ByteArray)
  left : Nat
  inTime : Bool
  holds : Bool

structure State where
  tree : FileTree
  /-- The files that are marked as programs. -/
  programs : List Location := []
  /-- The working directory. -/
  directory : Path
  bindings : List (String × String) := []
  /-- The parameters that programs see. -/
  exported : List String := []
  /-- The parameters that cannot be set again. -/
  fixed : List String := []
  functions : List (String × Script) := []
  /-- The parameters that a function has for itself, with their values outside of it. -/
  locals : List (String × Option String) := []
  /-- The number of loops around the command. -/
  loops : Nat := 0
  /-- The parameters of a script, its name first. -/
  arguments : List String := ["sh"]
  /-- The status of the last command, zero for success. -/
  status : Nat := 0
  /-- The time left, in milliseconds. -/
  left : Nat
  input : Input := {}
  jobs : List Job := []
  wiring : Wiring := {}
  /-- The options that are set. -/
  flags : List Char := []
  /-- What is run at the end. -/
  farewell : Option String := none

/-- Why nothing comes after a command. -/
inductive Stop
  | exit
  | timeout
  /-- So many loops are left. -/
  | leave (loops : Nat)
  /-- The innermost but so many loops goes on with the next turn. -/
  | next (loops : Nat)
  /-- A function is left. -/
  | back
  deriving DecidableEq, Repr

/-- What a command did. -/
structure Effect where
  state : State
  /-- What it wrote, in order. -/
  written : List (Stream × ByteArray) := []
  stop : Option Stop := none

/-- A program: its arguments, and the state it starts in. -/
abbrev Utility := List String → State → Effect

namespace State

/-- The path that an argument means. -/
def path (s : State) (arg : String) : Path :=
  if arg.isEmpty then ⟨""⟩ else s.directory.join arg

/-- The command ends with a status. -/
def finish (s : State) (status : Nat) : Effect := { state := { s with status } }

/-- The command writes and succeeds. -/
def print (s : State) (text : ByteArray) : Effect :=
  { state := { s with status := 0 }, written := [(.output, text)] }

/-- The command complains and fails. -/
def complain (s : State) (status : Nat) (text : String) : Effect :=
  { state := { s with status }, written := [(.errors, (text ++ "\n").toUTF8)] }

/-- A program complains about how it was called. -/
def misuse (s : State) (status : Nat) (program text : String) : Effect :=
  s.complain status
    (program ++ ": " ++ text ++ "\nTry '" ++ program ++ " --help' for more information.")

def bind (s : State) (name value : String) : State :=
  { s with
    bindings := (name, value) :: s.bindings.filter (·.1 ≠ name)
    exported := if s.flags.contains 'a' then name :: s.exported else s.exported }

def unbind (s : State) (name : String) : State :=
  { s with
    bindings := s.bindings.filter (·.1 ≠ name)
    exported := s.exported.filter (· ≠ name) }

/-- What is left of the input after all has been read. -/
def withoutInput (s : State) : State := { s with input := { s.input with bytes := .empty } }

/-- What one program does to the state of another: the tree changes, and time passes. -/
def after (s t : State) : State :=
  { s with
    tree := t.tree
    programs := t.programs
    left := t.left
    status := t.status
    input := t.input }

/-- What a shell says about a line of its script. -/
def remark (s : State) (line : Nat) (text : String) : String :=
  s.arguments.head?.getD "sh" ++ ": " ++ toString line ++ ": " ++ text

/-- The state as another program finds it. -/
def forProgram (s : State) : State :=
  { s with
    bindings := s.bindings.filter fun b => s.exported.contains b.1
    functions := []
    locals := []
    fixed := []
    jobs := []
    loops := 0
    wiring := {}
    flags := []
    farewell := none }

end State

namespace Effect

/-- Ends when the commands that run beside have ended, or those that hold what is written. -/
def joined (e : Effect) (all : Bool) : Effect :=
  let jobs := e.state.jobs.filter fun j => all || j.holds
  let left := (jobs.map (·.left)).foldl min e.state.left
  { state := { e.state with left, jobs := [] }
    written := e.written ++ jobs.flatMap (·.written)
    stop := if jobs.all (·.inTime) then e.stop else some .timeout }

/-- What was done before and after. -/
def followedBy (e f : Effect) : Effect := { f with written := e.written ++ f.written }

/-- What was written to a stream. -/
def stream (e : Effect) (s : Stream) : ByteArray :=
  (e.written.filter (·.1 = s)).foldl (fun bs (_, text) => bs ++ text) .empty

/-- What was written goes to its targets. -/
def route (w : Wiring) (e : Effect) : Effect :=
  e.written.foldl (fun e (stream, text) =>
    match w.ofStream stream with
    | .nowhere => e
    | .stream target => { e with written := e.written ++ [(target, text)] }
    | .file p =>
      match e.state.tree.read p with
      | .error _ => e
      | .ok content =>
        match e.state.tree.write p (content ++ text) with
        | .ok tree => { e with state := { e.state with tree } }
        | .error _ => e) { e with written := [] }

/-- What a program did, seen from the one that started it. -/
def asProgram (e : Effect) (s : State) : Effect :=
  { e with state := s.after e.state, stop := e.stop.filter (· = .timeout) }

end Effect

end Testsmith.Shell
