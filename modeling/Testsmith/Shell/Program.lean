/-
# Programs that run others

The texts of scripts are run line by line, and programs are started by their names: the utilities, the
shell itself, and those that start another program with other arguments, parameters or less time.

Key definitions: `Shell.Deeper`, `Shell.runText`, `Shell.runWhole`, `Shell.utility?`,
`Shell.startProgram`.
-/
import Testsmith.Shell.Builtin
import Testsmith.Shell.Calculation
import Testsmith.Shell.Difference
import Testsmith.Shell.Edit
import Testsmith.Shell.Filter
import Testsmith.Shell.Reader
import Testsmith.Shell.Selection

namespace Testsmith.Shell

/-- What can be run inside of what runs. -/
structure Deeper where
  /-- A script. `tested` says that its failure is no failure of the script around it. -/
  script : (tested : Bool) → Script → State → Effect
  /-- A program with its name and arguments, started in some line. -/
  program : (line : Nat) → List String → State → Effect

/-! ### Texts of scripts -/

/-- Runs the lines of a text one after another, up to a fault. -/
def runText (d : Deeper) (tested : Bool) (text : String) (s : State) : Effect :=
  let r := read text
  let e : Effect := r.lines.foldl (fun e line =>
    match e.stop with
    | some _ => e
    | none =>
      if e.state.flags.contains 'n' then e else e.followedBy (d.script tested line e.state))
    { state := s }
  match e.stop, r.error with
  | none, some f =>
    e.followedBy
      { e.state.complain 2 (e.state.remark f.line ("Syntax error: " ++ f.fault.message)) with
        stop := some .exit }
  | _, _ => e

/-- Runs a text and then what is to be run at the end. -/
def runWhole (d : Deeper) (text : String) (s : State) : Effect :=
  let e := runText d false text s
  match e.state.farewell, e.stop with
  | _, some .timeout => e
  | none, _ => e.joined false
  | some last, _ =>
    let f := runText d true last { e.state with farewell := none }
    let status := if f.stop = some .exit then f.state.status else e.state.status
    (e.followedBy { f with state := { f.state with status } }).joined false

/-- Runs a text in a shell of its own that starts as this one is. -/
def runApart (d : Deeper) (text : String) (s : State) : Effect :=
  (runWhole d text { s with wiring := {}, farewell := none, loops := 0 }).asProgram s

/-! ### Programs -/

def utility? (name : String) : Option Utility :=
  let other? : Option Utility :=
    match name with
    | "sed" => some editLines
    | "expr" => some calculate
    | "diff" => some compareLines
    | "uname" => some fun _ s => s.print "Linux\n".toUTF8
    | _ => none
  (((baseUtility? name).or (filter? name)).or (selection? name)).or other?

/-- The programs that start other programs. -/
def starters : List String :=
  ["sh", "dash", "bash", "env", "xargs", "timeout", "nohup", "nice", "which"]

def isProgram (name : String) : Bool := starters.contains name || (utility? name).isSome

/-- The name of a program without the directories in which programs are. -/
def programName (program : String) : String :=
  let short? (front : String) : Option String :=
    if front.toList.isPrefixOf program.toList then
      (some (String.ofList (program.toList.drop front.length))).filter isProgram
    else none
  ((short? "/bin/").or (short? "/usr/bin/")).getD program

/-- The path at which a program is. -/
def programPath (name : String) : String := "/usr/bin/" ++ name

/-- The arguments of a shell without the letter that says that the first is a text. -/
def withoutTextLetter : List String → Bool × List String
  | [] => (false, [])
  | a :: args =>
    match a.toList with
    | '-' :: c :: cs =>
      if a = "--" then (false, a :: args)
      else
        let (isText, args) := withoutTextLetter args
        let letters := (c :: cs).filter (· ≠ 'c')
        (isText || (c :: cs).contains 'c',
          if letters.isEmpty then args else String.ofList ('-' :: letters) :: args)
    | _ => (false, a :: args)

/-- A shell: a text to run, the file it is in, or the input. -/
def runShell (d : Deeper) (args : List String) (s : State) : Effect :=
  let (isText, args) := withoutTextLetter args
  match readSettings (args.length + 1) args with
  | .error text => s.complain 2 ("sh: 0: " ++ text)
  | .ok settings =>
  let args := settings.rest.getD []
  let inner : State :=
    settings.changes.foldl (fun s (on, c) => s.setOption on c) { s.forProgram with status := 0 }
  let run (text : String) (arguments : List String) : Effect :=
    (runWhole d text { inner with arguments }).asProgram s
  if isText then
    match args with
    | [] => s.complain 2 "sh: 0: -c requires an argument"
    | text :: args => run text (if args.isEmpty then ["sh"] else args)
  else
    match if inner.flags.contains 's' then [] else args with
    | [] =>
      (runWhole d (Text.decodeLossy s.input.bytes)
        { inner.withoutInput with arguments := "sh" :: args }).asProgram s.withoutInput
    | file :: args =>
      match s.tree.read (s.path file) with
      | .ok content => run (Text.decodeLossy content) (file :: args)
      | .error _ => s.complain 2 ("sh: 0: cannot open " ++ file ++ ": No such file")

/-- Runs a program with parameters set for it. -/
def runWithParameters (d : Deeper) (line : Nat) (args : List String) (s : State) : Effect :=
  let args := args.filter fun a => a ≠ "-i" && a ≠ "--"
  let assigned := args.takeWhile fun a => (splitAssignment a).2.isSome
  let t := (exportNames line assigned s).state
  match args.drop assigned.length with
  | [] =>
    let bound := t.bindings.filter fun b => t.exported.contains b.1
    s.print (unlines (bound.reverse.map fun b => b.1 ++ "=" ++ b.2))
  | program :: args =>
    if isProgram (programName program) || program.contains '/' then
      (d.program line (program :: args) t).asProgram s
    else s.complain 127 ("env: '" ++ program ++ "': No such file or directory")

/-- The arguments in an input: what is between blanks, without quotes. -/
def inputArguments : (current : Option (List Char)) → (quote : Option Char) → List Char → List String
  | current, _, [] => (current.map fun cs => String.ofList cs.reverse).toList
  | current, some q, c :: cs =>
    if c = q then inputArguments (some (current.getD [])) none cs
    else inputArguments (some (c :: current.getD [])) (some q) cs
  | current, none, '\\' :: c :: cs => inputArguments (some (c :: current.getD [])) none cs
  | current, none, c :: cs =>
    if c = ' ' || c = '\t' || c = '\n' then
      (current.map fun cs => String.ofList cs.reverse).toList ++ inputArguments none none cs
    else if c = '"' || c = '\'' then inputArguments (some (current.getD [])) (some c) cs
    else inputArguments (some (c :: current.getD [])) none cs

/-- Lists in pieces of a length. -/
def inPieces {α : Type} (n : Nat) : (bound : Nat) → List α → List (List α)
  | 0, _ | _, [] => []
  | bound + 1, xs => xs.take n :: inPieces n bound (xs.drop n)

/-- Runs a program with arguments from the input. -/
def runWithInput (d : Deeper) (line : Nat) (args : List String) (s : State) : Effect :=
  let c := Call.ofArguments "nIdLP" args false
  let text := Text.decodeLossy s.input.bytes
  let program := if c.operands.isEmpty then ["echo"] else c.operands
  let words :=
    if (c.value? 'I').isSome then
      (textLines s.input.bytes).filter (!·.isEmpty)
    else if c.has '0' then (text.splitOn "\x00").filter (!·.isEmpty)
    else inputArguments none none text.toList
  let calls : List (List String) :=
    match c.value? 'I', ((c.value? 'n').or (c.value? 'L')).bind String.toNat? with
    | some mark, _ => words.map fun w => program.map fun a => w.intercalate (a.splitOn mark)
    | none, some (n + 1) => (inPieces (n + 1) (words.length + 1) words).map (program ++ ·)
    | none, _ => [program ++ words]
  let calls := if words.isEmpty && (c.has 'r' || (c.value? 'I').isSome) then [] else calls
  calls.foldl (fun e call =>
    match e.stop with
    | some _ => e
    | none =>
      let f := (d.program line call e.state.withoutInput).asProgram e.state
      let status :=
        if f.state.status = 0 then e.state.status else if f.state.status = 127 then 127 else 123
      e.followedBy { f with state := { f.state with status } }) (s.withoutInput.finish 0)

/-- Runs a program for the files that meet some conditions: for each, or for all at once. -/
def runForFiles (d : Deeper) (line : Nat) (args : List String) (s : State) : Effect :=
  let conditions := args.takeWhile (· ≠ "-exec")
  let rest := args.drop (conditions.length + 1)
  let program := rest.takeWhile fun a => a ≠ ";" && a ≠ "+"
  let together := rest[program.length]? = some "+"
  let e := findFiles (conditions ++ rest.drop (program.length + 1)) s
  let paths := textLines (e.stream .output)
  let calls : List (List String) :=
    if together then if paths.isEmpty then [] else [program.dropLast ++ paths]
    else paths.map fun p => program.map fun a => p.intercalate (a.splitOn "\x7b\x7d")
  calls.foldl (fun e call =>
    match e.stop with
    | some _ => e
    | none =>
      let f := (d.program line call e.state).asProgram e.state
      let status := if together && f.state.status ≠ 0 then 1 else e.state.status
      e.followedBy { f with state := { f.state with status } })
    { e with written := e.written.filter (·.1 = .errors) }

/-- Runs a program that may take only so long. -/
def runWithin (d : Deeper) (line : Nat) (args : List String) (s : State) : Effect :=
  let c := Call.ofArguments "sk" args false
  match c.operands with
  | duration :: program =>
    match milliseconds? duration with
    | none => s.complain 125 ("timeout: invalid time interval '" ++ duration ++ "'")
    | some most =>
      let e := (d.program line program { s with left := min s.left most }).asProgram s
      match e.stop with
      | some .timeout =>
        if most < s.left then
          { e with state := { e.state with left := s.left - most, status := 124 }, stop := none }
        else e
      | _ => { e with state := { e.state with left := s.left - (min s.left most - e.state.left) } }
  | [] => s.complain 125 "timeout: missing operand"

/-- Starts a program. A file is a program only if it is marked as one. -/
def startProgram (d : Deeper) (line : Nat) (words : List String) (s : State) : Effect :=
  match words with
  | [] => s.finish 0
  | program :: args =>
    let name := programName program
    if name = "sh" || name = "dash" || name = "bash" then runShell d args s
    else if name = "env" then runWithParameters d line args s
    else if name = "xargs" then runWithInput d line args s
    else if name = "timeout" then runWithin d line args s
    else if name = "find" && args.contains "-exec" then runForFiles d line args s
    else if name = "nohup" || name = "nice" then d.program line args s
    else if name = "which" then
      let found := args.filter isProgram
      { s.print (unlines (found.map programPath)) with
        state := { s with status := if found.length = args.length then 0 else 1 } }
    else
      match utility? name with
      | some u => u args s
      | none =>
        if !name.contains '/' then s.complain 127 (s.remark line (name ++ ": not found"))
        else
          match s.tree.find (s.path name) with
          | .ok (l, .file content) =>
            if s.programs.contains l then
              (runWhole d (Text.decodeLossy content)
                { s.forProgram with arguments := words }).asProgram s
            else s.complain 126 (s.remark line (name ++ ": Permission denied"))
          | .ok _ => s.complain 126 (s.remark line (name ++ ": Permission denied"))
          | .error _ => s.complain 127 (s.remark line (name ++ ": not found"))

end Testsmith.Shell
