/-
# What belongs to the shell

The commands that change the shell itself: its directory, parameters, arguments, options and input,
and those that end a loop, a function or a script.

Key definitions: `Shell.specialNames`, `Shell.readSettings`, `Shell.readInput`, `Shell.builtin?`.
-/
import Testsmith.Shell.Expansion
import Testsmith.Shell.Utility

namespace Testsmith.Shell

/-- The commands that end a script if they fail, and whose assignments stay. -/
def specialNames : List String :=
  ["break", ":", "continue", ".", "eval", "exec", "exit", "export", "readonly", "return", "set",
   "shift", "times", "trap", "unset"]

/-! ### Leaving -/

/-- A command complains and ends the script. -/
def fault (line : Nat) (s : State) (text : String) : Effect :=
  { s.complain 2 (s.remark line text) with stop := some .exit }

/-- Ends a script, or what a stop is for, with a status. -/
def leaveWith (name : String) (stop : Stop) (line : Nat) (args : List String) (s : State) : Effect :=
  match args with
  | [] => { state := s, stop := some stop }
  | a :: _ =>
    match a.toNat? with
    | some n => { state := { s with status := n % 256 }, stop := some stop }
    | none => fault line s (name ++ ": Illegal number: " ++ a)

/-- Ends so many loops, or their turns, but no more than there are. -/
def leaveLoops (name : String) (stop : Nat → Stop) (line : Nat) (args : List String) (s : State) :
    Effect :=
  let leave (n : Nat) : Effect :=
    if s.loops = 0 then s.finish 0 else { s.finish 0 with stop := some (stop (min n s.loops - 1)) }
  match args with
  | [] => leave 1
  | a :: _ =>
    match a.toNat? with
    | some (n + 1) => leave (n + 1)
    | _ => fault line s (name ++ ": Illegal number: " ++ a)

/-! ### Parameters -/

/-- The name and the value in an assignment. -/
def splitAssignment (a : String) : String × Option String :=
  let name := a.toList.takeWhile (· != '=')
  if name.length = a.length then (a, none)
  else (String.ofList name, some (String.ofList (a.toList.drop (name.length + 1))))

/-- Marks parameters for programs, and sets them. -/
def exportNames (line : Nat) (args : List String) (s : State) : Effect :=
  let args := args.filter (· ≠ "-p")
  let wrong? := args.find? fun a => !isName (splitAssignment a).1
  let again? := args.find? fun a =>
    (splitAssignment a).2.isSome && s.fixed.contains (splitAssignment a).1
  match wrong?, again? with
  | some a, _ => fault line s ("export: " ++ (splitAssignment a).1 ++ ": bad variable name")
  | none, some a => fault line s ((splitAssignment a).1 ++ ": is read only")
  | none, none =>
    (args.foldl (fun s a =>
      let (name, value?) := splitAssignment a
      let s := value?.elim s (s.bind name)
      { s with exported := name :: s.exported.filter (· ≠ name) }) s).finish 0

/-- Sets parameters that cannot be set again. -/
def fixNames (line : Nat) (args : List String) (s : State) : Effect :=
  let e := exportNames line args { s with exported := [] }
  let names := (args.filter (· ≠ "-p")).map fun a => (splitAssignment a).1
  { e with state := { e.state with exported := s.exported, fixed := names ++ s.fixed } }

/-- Sets parameters that only the function has. -/
def localNames (args : List String) (s : State) : Effect :=
  (args.foldl (fun s a =>
    let (name, value?) := splitAssignment a
    let s := { s with locals := (name, s.bindings.lookup name) :: s.locals }
    value?.elim s (s.bind name)) s).finish 0

/-- Removes parameters, or functions. -/
def unsetNames (args : List String) (s : State) : Effect :=
  let ofFunctions := args.contains "-f"
  ((args.filter (!·.startsWith "-")).foldl (fun s name =>
    let s := if ofFunctions then s else s.unbind name
    if ofFunctions then { s with functions := s.functions.filter (·.1 ≠ name) } else s) s).finish 0

/-- The letter of an option that is a word. -/
def optionLetter? (word : String) : Option Char :=
  [("errexit", 'e'), ("nounset", 'u'), ("xtrace", 'x'), ("noglob", 'f'), ("noexec", 'n'),
   ("allexport", 'a'), ("verbose", 'v'), ("noclobber", 'C')].lookup word

/-- Sets an option, or takes it back. -/
def State.setOption (s : State) (on : Bool) (c : Char) : State :=
  let others := s.flags.filter (· ≠ c)
  { s with flags := if on then others ++ [c] else others }

/-- The letters that are options. -/
def optionLetters : List Char :=
  ['a', 'b', 'C', 'e', 'f', 'i', 'I', 'm', 'n', 's', 'u', 'v', 'V', 'x', 'E']

/-- Options that are set or taken back, and what follows them if something does. -/
structure Settings where
  changes : List (Bool × Char) := []
  rest : Option (List String) := none

/-- Reads the letters of an option: an `o` stands for the word that follows. What is no option is
said. -/
def readSettings : (bound : Nat) → List String → Except String Settings
  | 0, _ | _, [] => .ok {}
  | _, "--" :: args => .ok { rest := some args }
  | bound + 1, a :: args =>
    match a.toList with
    | sign :: c :: cs =>
      if sign ≠ '-' && sign ≠ '+' then .ok { rest := some (a :: args) }
      else do
        let on : Bool := sign = '-'
        let letters := (c :: cs).filter (· ≠ 'o')
        match letters.find? fun c => !optionLetters.contains c with
        | some c => throw ("Illegal option " ++ String.ofList [sign, c])
        | none => pure ()
        let changes := letters.map (on, ·)
        if (c :: cs).contains 'o' then
          match args with
          | [] => return { changes }
          | word :: args =>
            match optionLetter? word with
            | none => throw ("Illegal option " ++ String.ofList [sign, 'o', ' '] ++ word)
            | some c =>
              let more ← readSettings bound args
              return { more with changes := changes ++ (on, c) :: more.changes }
        else
          let more ← readSettings bound args
          return { more with changes := changes ++ more.changes }
    | _ => .ok { rest := some (a :: args) }

/-- Sets options and the arguments of the script. -/
def setArguments (line : Nat) (args : List String) (s : State) : Effect :=
  match readSettings (args.length + 1) args with
  | .error text => fault line s ("set: " ++ text)
  | .ok settings =>
    let s := settings.changes.foldl (fun s (on, c) => s.setOption on c) s
    { s with arguments := s.arguments.take 1 ++ settings.rest.getD (s.arguments.drop 1) }.finish 0

/-- Drops arguments of the script. -/
def shiftArguments (line : Nat) (args : List String) (s : State) : Effect :=
  let n := (args.head?.bind String.toNat?).getD 1
  if n < s.arguments.length then
    { s with arguments := s.arguments.take 1 ++ s.arguments.drop (n + 1) }.finish 0
  else fault line s "shift: can't shift that many"

/-! ### Input -/

/-- A line of input up to its end, and what follows. A backslash joins lines unless it is `raw`. -/
def takeLine (raw : Bool) : List UInt8 → List UInt8 × Option (List UInt8)
  | [] => ([], none)
  | 10 :: bs => ([], some bs)
  | 92 :: b :: bs =>
    if raw then
      let (line, rest) := if b = 10 then ([], some bs) else
        let (line, rest) := takeLine raw bs
        (b :: line, rest)
      (92 :: line, rest)
    else
      let (line, rest) := takeLine raw bs
      (if b = 10 then line else b :: line, rest)
  | b :: bs =>
    let (line, rest) := takeLine raw bs
    (b :: line, rest)

/-- The values that a line gives to names: fields, and all that is left for the last. -/
def lineValues (separators : List Char) : List String → List Char → List (String × String)
  | [], _ => []
  | names, cs =>
    let isBlank (c : Char) : Bool := (c = ' ' || c = '\t') && separators.contains c
    let cs := cs.dropWhile isBlank
    match names with
    | [] => []
    | [name] => [(name, String.ofList (cs.reverse.dropWhile isBlank).reverse)]
    | name :: names =>
      let field := cs.takeWhile fun c => !separators.contains c
      let rest := (cs.drop field.length).dropWhile isBlank
      let rest :=
        match rest with
        | c :: more => if separators.contains c then more else rest
        | [] => []
      (name, String.ofList field) :: lineValues separators names rest

/-- Sets parameters to the fields of the next line of the input. -/
def readInput (args : List String) (s : State) : Effect :=
  let c := Call.ofArguments "p" args false
  let (line, rest?) := takeLine (c.has 'r') s.input.bytes.toList
  let text := Text.decodeLossy (toBytes line)
  let names := if c.operands.isEmpty then ["REPLY"] else c.operands
  let values := lineValues s.separators names text.toList
  let s := values.foldl (fun s (name, value) => s.bind name value) s
  { s with input := { s.input with bytes := toBytes (rest?.getD []) } }.finish
    (if rest?.isSome then 0 else 1)

/-! ### The rest -/

/-- Goes to a directory. -/
def changeDirectory (line : Nat) (args : List String) (s : State) : Effect :=
  let args := args.filter fun a => a ≠ "-P" && a ≠ "-L" && a ≠ "--"
  let before := s.directory.text
  let (target, said) :=
    match args.head? with
    | some "-" => ((s.bindings.lookup "OLDPWD").getD before, true)
    | some a => (a, false)
    | none => ((s.bindings.lookup "HOME").getD before, false)
  let p := s.path target
  match s.tree.find p with
  | .ok (l, .directory) =>
    let text := "/" ++ "/".intercalate l
    let s := { s with directory := ⟨text⟩ }.bind "OLDPWD" before
    if said then s.print (text ++ "\n").toUTF8 else s.finish 0
  | _ => s.complain 2 (s.remark line ("cd: can't cd to " ++ target))

/-- Ends programs. The only one is the shell. -/
def endPrograms (line : Nat) (args : List String) (s : State) : Effect :=
  let (signals, targets) := args.partition (·.startsWith "-")
  if targets.contains ownNumber && signals.contains "-0" then s.finish 0
  else if targets.contains ownNumber then
    let status := if ["-9", "-KILL", "KILL"].any args.contains then 137 else 143
    { state := { s with status }, stop := some .exit }
  else s.complain 1 (s.remark line "kill: No such process\n")

/-- What is run at the end of the script. -/
def atTheEnd (args : List String) (s : State) : Effect :=
  let isEnd (a : String) : Bool := a = "EXIT" || a = "0"
  match args with
  | action :: signals =>
    if signals.any isEnd then
      { s with farewell := if action = "-" then none else some action }.finish 0
    else if isEnd action then { s with farewell := none }.finish 0
    else s.finish 0
  | [] => s.finish 0

/-- The commands of the shell that run no others. -/
def builtin? (line : Nat) : String → Option (List String → State → Effect)
  | ":" | "times" | "hash" | "jobs" | "ulimit" | "alias" | "unalias" => some fun _ s => s.finish 0
  | "exit" => some (leaveWith "exit" .exit line)
  | "return" => some (leaveWith "return" .back line)
  | "break" => some (leaveLoops "break" .leave line)
  | "continue" => some (leaveLoops "continue" .next line)
  | "export" => some (exportNames line)
  | "readonly" => some (fixNames line)
  | "local" => some localNames
  | "unset" => some unsetNames
  | "set" => some (setArguments line)
  | "shift" => some (shiftArguments line)
  | "read" => some readInput
  | "cd" => some (changeDirectory line)
  | "kill" => some (endPrograms line)
  | "trap" => some atTheEnd
  | "umask" => some fun args s => if args.isEmpty then s.print "0022\n".toUTF8 else s.finish 0
  | "echo" => some echo
  | "printf" => some fun args s => printfNamed (s.remark line "printf") args s
  | "test" => some fun args s => testWith Condition.Fault.message (s.remark line "test") args s
  | "[" => some fun args s =>
    bracketWith Condition.Fault.message "missing ]" (s.remark line "[") args s
  | _ => none

end Testsmith.Shell
