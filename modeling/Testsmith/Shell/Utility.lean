/-
# Utilities

The programs that scripts are made of: they read and change files, write text, test conditions and
pass the time. What a program takes, it takes of the time that is left.

Key definitions: `Shell.forEach`, `Shell.echo`, `Shell.printfNamed`, `Shell.baseUtility?`.
-/
import Testsmith.Shell.Condition
import Testsmith.Shell.Format
import Testsmith.Shell.Source

namespace Testsmith.Shell

/-- Does something for each argument; where it fails, says so and goes on. -/
def forEach (status : Nat) (act : State → String → Except String (State × ByteArray))
    (args : List String) (s : State) : Effect :=
  args.foldl (fun e arg =>
    match act e.state arg with
    | .ok (s, text) => { e with state := s, written := e.written ++ [(.output, text)] }
    | .error text =>
      { e with
        state := { e.state with status }
        written := e.written ++ [(.errors, (text ++ "\n").toUTF8)] }) (s.finish 0)

/-- Changes the tree, or says why not. -/
def change (s : State) (complaint : String) (r : Except IoError FileTree) :
    Except String (State × ByteArray) :=
  match r with
  | .ok tree => .ok ({ s with tree }, .empty)
  | .error e => .error (complaint ++ ": " ++ e.reason)

/-! ### Writing text -/

/-- Writes its arguments in one line, with escapes replaced. -/
def echo : Utility := fun args s =>
  let (bare, args) :=
    match args with
    | "-n" :: args => (true, args)
    | args => (false, args)
  let (bytes, goesOn) := unescaped (" ".intercalate args)
  s.print (toBytes (if bare || !goesOn then bytes else bytes ++ [10]))

/-- The letters of the options at the front, if they are options of `plainEcho`, and what follows. -/
def echoOptions : List String → List Char × List String
  | [] => ([], [])
  | a :: args =>
    match a.toList with
    | '-' :: c :: cs =>
      if (c :: cs).all ['n', 'e', 'E'].contains then
        let (letters, rest) := echoOptions args
        (c :: cs ++ letters, rest)
      else ([], a :: args)
    | _ => ([], a :: args)

/-- Writes its arguments in one line, as they are unless it is told otherwise. -/
def plainEcho : Utility := fun args s =>
  let (letters, args) := echoOptions args
  let text := " ".intercalate args
  let escapes := (letters.filter (· ≠ 'n')).getLast? = some 'e'
  let (bytes, goesOn) := if escapes then unescaped text else (text.toUTF8.toList, true)
  s.print (toBytes (if letters.contains 'n' || !goesOn then bytes else bytes ++ [10]))

/-- Writes a format. What complains is called `name`. -/
def printfNamed (name : String) : Utility := fun args s =>
  match args with
  | [] =>
    if name = "printf" then s.misuse 1 name "missing operand"
    else s.complain 2 (name ++ ": usage: printf format [arg ...]")
  | fmt :: args =>
    let p := format fmt.toList (args.length + 1) args
    { state := { s with status := if p.wrong then 2 else if p.complaints.isEmpty then 0 else 1 }
      written := (.output, toBytes p.bytes) ::
        p.complaints.map fun text => (.errors, (name ++ ": " ++ text ++ "\n").toUTF8) }

/-! ### Files -/

def cat : Utility := fun args s =>
  let c := Call.ofArguments "" args true
  if c.has 'n' then
    perSource unreadable c.operands
      (fun f => unlines (f.lines.mapIdx fun i l => padded 6 (i + 1) ++ "\t" ++ l)) s
  else perSource unreadable c.operands (·.content) s
where
  unreadable (name reason : String) : String := "cat: " ++ name ++ ": " ++ reason

/-- Programs that need something to work on. -/
def needing (program missing : String) (act : List String → State → Effect)
    (operands : List String) (s : State) : Effect :=
  if operands.isEmpty then s.misuse 1 program missing else act operands s

def touch : Utility := fun args s =>
  needing "touch" "missing file operand" (forEach 1 (fun s arg =>
    if s.tree.has (s.path arg) then .ok (s, .empty)
    else change s ("touch: cannot touch " ++ quoted arg) (s.tree.write (s.path arg) .empty)))
    (Call.ofArguments "" args true).operands s

def mkdir : Utility := fun args s =>
  let c := Call.ofArguments "m" args true
  needing "mkdir" "missing operand" (forEach 1 (fun s arg =>
    let r :=
      if c.has 'p' then
        match s.tree.makeDirs (s.path arg) with
        | (.ok (), tree) => .ok tree
        | (.error e, _) => .error e
      else s.tree.makeDir (s.path arg)
    change s ("mkdir: cannot create directory " ++ quoted arg) r)) c.operands s

def rmdir : Utility := fun args s =>
  needing "rmdir" "missing operand" (forEach 1 (fun s arg =>
    change s ("rmdir: failed to remove " ++ quoted arg) (s.tree.removeDir (s.path arg))))
    (Call.ofArguments "" args true).operands s

def rm : Utility := fun args s =>
  let c := Call.ofArguments "" args true
  let deep := c.has 'r' || c.has 'R'
  if c.operands.isEmpty && !c.has 'f' then s.misuse 1 "rm" "missing operand" else
  forEach 1 (fun s arg =>
    match s.tree.find (s.path arg) with
    | .ok (l, .directory) =>
      if deep && !l.isEmpty then .ok ({ s with tree := s.tree.prune l }, .empty)
      else .error ("rm: cannot remove " ++ quoted arg ++ ": Is a directory")
    | .ok (l, .file _) => .ok ({ s with tree := s.tree.erase l }, .empty)
    | .error e =>
      if c.has 'f' && (e == .notFound || e == .notDirectory) then .ok (s, .empty)
      else .error ("rm: cannot remove " ++ quoted arg ++ ": " ++ e.reason)) c.operands s

/-- Where a copy goes: into a directory under its own name, or to the path itself. -/
def intoPath (s : State) (source target : String) : Path :=
  let p := s.path target
  if s.tree.hasDirectory p then p.join ((Path.fileName? ⟨source⟩).getD "") else p

/-- The tree with everything below one location also below another. -/
def copyBelow (t : FileTree) (source target : Location) : FileTree :=
  (t.entries.filter fun e => source.isPrefixOf e.1).foldl (fun t e =>
    t.put (target ++ e.1.drop source.length) e.2) t

/-- Copies or moves an entry. -/
def transfer (name : String) (deep keep : Bool) (s : State) (source target : String) :
    Except String (State × ByteArray) :=
  match s.tree.find (s.path source) with
  | .error e => .error (name ++ ": cannot stat " ++ quoted source ++ ": " ++ e.reason)
  | .ok (l, .file content) =>
    if (s.tree.locate (intoPath s source target)).toOption = some l then
      .error (name ++ ": " ++ quoted source ++ " and " ++ quoted target ++ " are the same file")
    else change s (name ++ ": cannot create regular file " ++ quoted target)
      ((s.tree.write (intoPath s source target) content).map fun t => if keep then t else t.erase l)
  | .ok (l, .directory) =>
    if !deep then .error (name ++ ": -r not specified; omitting directory " ++ quoted source)
    else
      change s (name ++ ": cannot create directory " ++ quoted target) (do
        let t ← s.tree.ensureDir (intoPath s source target)
        let (m, _) ← t.find (intoPath s source target)
        let t := copyBelow t l m
        return if keep then t else t.prune l)

def copyOrMove (name : String) (keep : Bool) : Utility := fun args s =>
  let c := Call.ofArguments "" args true
  let deep := !keep || c.options.any fun o => ['r', 'R', 'a'].contains o.1
  match c.operands.getLast?, c.operands.dropLast with
  | some target, source :: sources =>
    match sources, s.tree.find (s.path target) with
    | _ :: _, .error e => s.complain 1 (name ++ ": target " ++ quoted target ++ ": " ++ e.reason)
    | _ :: _, .ok (_, .file _) =>
      s.complain 1 (name ++ ": target " ++ quoted target ++ ": Not a directory")
    | _, _ =>
      forEach 1 (fun s source => transfer name deep keep s source target) (source :: sources) s
  | some source, [] =>
    s.misuse 1 name ("missing destination file operand after " ++ quoted source)
  | none, _ => s.misuse 1 name "missing file operand"

/-- Marks files as programs, or takes the mark away. -/
def mark : Utility := fun args s =>
  let c := Call.ofArguments "" (args.filter (· ≠ "-x")) true
  let (mode, files) :=
    if args.contains "-x" then ("-x", c.operands) else (c.operands.head?.getD "", c.operands.drop 1)
  let runs (had : Bool) : Bool :=
    match mode.toNat? with
    | some n => n / 100 % 10 % 2 = 1
    | none => if !mode.contains 'x' then had else !mode.contains '-'
  forEach 1 (fun s arg =>
    match s.tree.find (s.path arg) with
    | .ok (l, _) =>
      let others := s.programs.filter (· ≠ l)
      let programs := if runs (s.programs.contains l) then l :: others else others
      .ok ({ s with programs }, .empty)
    | .error e => .error ("chmod: cannot access " ++ quoted arg ++ ": " ++ e.reason)) files s

/-- A directory and the directories below it, with their paths. -/
def directoriesBelow (t : FileTree) : (bound : Nat) → String → Location → List (String × Location)
  | 0, _, _ => []
  | bound + 1, name, l =>
    let inner := (t.childNames l).filter fun n => t.node? (l ++ [n]) == some .directory
    (name, l) :: inner.flatMap fun n => directoriesBelow t bound (name ++ "/" ++ n) (l ++ [n])

/-- Names, a line for each: first files, then what is in directories, with a heading if more than one
thing is listed. -/
def list : Utility := fun args s =>
  let c := Call.ofArguments "" args true
  let all := c.has 'a'
  let ordered (ns : List String) : List String := if c.has 'r' then ns.reverse else ns
  let shown (l : Location) : List String :=
    ordered ((if all then [".", ".."] else []) ++
      (s.tree.childNames l).filter fun n => all || c.has 'A' || !n.startsWith ".")
  let names := if c.operands.isEmpty then ["."] else c.operands
  let found := names.filterMap fun name => (s.tree.find (s.path name)).toOption.map (name, ·)
  let isListed (n : FileNode) : Bool := !c.has 'd' && n == .directory
  let files := (found.filter fun (_, _, n) => !isListed n).map (·.1)
  let directories := found.filterMap fun (name, l, n) => if isListed n then some (name, l) else none
  let directories := directories.mergeSort fun a b => a.1 ≤ b.1
  let directories := if c.has 'r' then directories.reverse else directories
  let directories :=
    if c.has 'R' then
      directories.flatMap fun (name, l) =>
        directoriesBelow s.tree (s.tree.entries.length + 1) name l
    else directories
  let headed := names.length > 1 || c.has 'R'
  let sections := directories.map fun (name, l) => (if headed then [name ++ ":"] else []) ++ shown l
  let text := ordered (files.mergeSort (· ≤ ·)) ++
    (if files.isEmpty || sections.isEmpty then [] else [""]) ++ [""].intercalate sections
  s.answer (unlines text) 2 (names.filterMap fun name =>
    match s.tree.find (s.path name) with
    | .error e => some ("ls: cannot access " ++ quoted name ++ ": " ++ e.reason)
    | .ok _ => none)

/-! ### Conditions -/

/-- The condition its arguments are. What complains is called `name`. -/
def testWith (say : Condition.Fault → String) (name : String) : Utility := fun args s =>
  match Condition.holds s args with
  | .ok true => s.finish 0
  | .ok false => s.finish 1
  | .error f => s.complain 2 (name ++ ": " ++ say f)

/-- The condition its arguments are, up to a bracket. -/
def bracketWith (say : Condition.Fault → String) (missing name : String) : Utility := fun args s =>
  if args.getLast? == some "]" then testWith say name args.dropLast s
  else s.complain 2 (name ++ ": " ++ missing)

/-! ### Time and place -/

/-- A time in milliseconds. -/
def milliseconds? (arg : String) : Option Nat :=
  let cs := arg.toList
  let (cs, unit) :=
    match cs.getLast? with
    | some 's' => (cs.dropLast, 1)
    | some 'm' => (cs.dropLast, 60)
    | some 'h' => (cs.dropLast, 3600)
    | _ => (cs, 1)
  let whole := cs.takeWhile Char.isDigit
  match cs.drop whole.length with
  | [] => (String.ofList whole).toNat?.map (1000 * unit * ·)
  | '.' :: part =>
    if part.all Char.isDigit && !(whole.isEmpty && part.isEmpty) then
      let n := (String.ofList (whole ++ part)).toNat?.getD 0
      some (n * 1000 * unit / Nat.pow 10 part.length)
    else none
  | _ => none

/-- Lets time pass. What takes longer than there is time for does not end. -/
def sleep : Utility := fun args s =>
  match args.mapM milliseconds?, args.find? fun a => (milliseconds? a).isNone with
  | none, wrong => s.misuse 1 "sleep" ("invalid time interval " ++ quoted (wrong.getD ""))
  | some [], _ => s.misuse 1 "sleep" "missing operand"
  | some times, _ =>
    let time := times.foldl (· + ·) 0
    if time < s.left then { state := { s with left := s.left - time, status := 0 } }
    else { state := { s with left := 0 }, stop := some .timeout }

def printDirectory : Utility := fun _ s => s.print (s.directory.text ++ "\n").toUTF8

/-- Writes the values of parameters that programs see, or all of them. -/
def printParameters : Utility := fun args s =>
  let seen := s.bindings.filter fun b => s.exported.contains b.1
  if args.isEmpty then
    s.print (unlines (seen.reverse.map fun b => b.1 ++ "=" ++ b.2))
  else
    let found := args.filterMap fun name => seen.lookup name
    { state := { s with status := if found.length = args.length then 0 else 1 }
      written := [(.output, unlines found)] }

def succeed : Utility := fun _ s => s.finish 0

def fail : Utility := fun _ s => s.finish 1

/-- The programs that work on files, write text or test conditions. -/
def baseUtility? : String → Option Utility
  | "echo" => some plainEcho
  | "printf" => some (printfNamed "printf")
  | "cat" => some cat
  | "touch" => some touch
  | "mkdir" => some mkdir
  | "rmdir" => some rmdir
  | "rm" => some rm
  | "cp" => some (copyOrMove "cp" true)
  | "mv" => some (copyOrMove "mv" false)
  | "ls" => some list
  | "chmod" => some mark
  | "test" => some (testWith Condition.Fault.programMessage "test")
  | "[" => some (bracketWith Condition.Fault.programMessage "missing ']'" "[")
  | "sleep" => some sleep
  | "pwd" => some printDirectory
  | "printenv" => some printParameters
  | "true" => some succeed
  | "false" => some fail
  | _ => none

end Testsmith.Shell
