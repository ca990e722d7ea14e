/-
# Simple commands

A simple command is words, redirections and assignments. Its words are expanded, its streams are
connected, its parameters are set, and then a function, a command of the shell or a program is run.

Key definitions: `Shell.connect`, `Shell.assignment?`, `Shell.callFunction`, `Shell.runWords`,
`Shell.runSimple`.
-/
import Testsmith.Shell.Program

namespace Testsmith.Shell

/-! ### Redirections -/

/-- The file that swallows everything, and those that stand for the streams. -/
def specialTarget? (w : Wiring) (path : String) : Option Target :=
  match path with
  | "/dev/null" => some .nowhere
  | "/dev/stdout" | "/dev/fd/1" => w.target? 1
  | "/dev/stderr" | "/dev/fd/2" => w.target? 2
  | _ => none

/-- Takes up a redirection; it makes the file it writes to. What goes wrong is said. -/
def connect (run : String → State → Effect) (r : Redirection) : Expander (Option String) := do
  match r with
  | .copy descriptor source => do
    let s ← Expander.state
    match s.wiring.target? source with
    | none => return some (toString source ++ ": Bad file descriptor")
    | some target => do
      Expander.setState { s with wiring := s.wiring.set descriptor target }
      return none
  | .close descriptor => do
    let s ← Expander.state
    Expander.setState { s with wiring := s.wiring.close descriptor }
    return none
  | .fromText word => do
    let text ← wordText run word
    let s ← Expander.state
    Expander.setState { s with input := { bytes := text.toUTF8 } }
    return none
  | .fromFile word => do
    let name ← wordText run word
    let s ← Expander.state
    if name = "/dev/null" then
      Expander.setState { s with input := {} }
      return none
    else if name = "/dev/stdin" then return none
    else
      match s.tree.find (s.path name) with
      | .ok (_, .file bytes) => do
        Expander.setState { s with input := { bytes, isFile := true } }
        return none
      | .ok _ => do
        Expander.setState { s with input := {} }
        return none
      | .error _ => return some ("cannot open " ++ name ++ ": No such file")
  | .toFile descriptor extend word => do
    let name ← wordText run word
    let s ← Expander.state
    match specialTarget? s.wiring name with
    | some target => do
      Expander.setState { s with wiring := s.wiring.set descriptor target }
      return none
    | none =>
      let p := s.path name
      let content := if extend then (s.tree.read p).toOption.getD .empty else .empty
      match s.tree.write p content with
      | .ok tree => do
        Expander.setState { s with tree, wiring := s.wiring.set descriptor (.file p) }
        return none
      | .error e =>
        let absent := e == .notFound || e == .notDirectory
        let reason := if absent then "Directory nonexistent" else e.reason
        return some ("cannot create " ++ name ++ ": " ++ reason)

/-- Takes up redirections in order, until one goes wrong. -/
def connectAll (run : String → State → Effect) : List Redirection → Expander (Option String)
  | [] => return none
  | r :: rs => do
    match ← connect run r with
    | some text => return some text
    | none => connectAll run rs

/-- The streams and the input are as before, but that a part of the input may have been read. -/
def State.reconnected (s : State) (rs : List Redirection) (before : State) : State :=
  let replaced := rs.any fun r => r matches .fromFile _ | .fromText _
  { s with wiring := before.wiring, input := if replaced then before.input else s.input }

/-! ### Simple commands -/

/-- The assignment a word is, if it is one. -/
def assignment? (w : Word) : Option (String × Word) :=
  if isAssignment w then go "" w else none
where
  /-- Gathers the name before the equals sign. -/
  go (name : String) : Word → Option (String × Word)
    | .literal text false :: rest =>
      match text.toList.dropWhile isNameChar with
      | '=' :: value =>
        some (name ++ String.ofList (text.toList.takeWhile isNameChar),
          .literal (String.ofList value) false :: rest)
      | _ => go (name ++ text) rest
    | _ => none

/-- Sets parameters to the texts of words, one after another. -/
def assignAll (run : String → State → Effect) : List (String × Word) → Expander (List String)
  | [] => return []
  | (name, w) :: more => do
    let value ← wordText run w
    let s ← Expander.state
    if s.fixed.contains name then Expander.fail (name ++ ": is read only")
    else Expander.setState (s.bind name value)
    return (name ++ "=" ++ value) :: (← assignAll run more)

/-- Ends a script at a fault of expanding. -/
def ExpansionFault.effect (line : Nat) (f : ExpansionFault) : Effect :=
  let s := f.progress.state
  let e : Effect :=
    match f.stop with
    | .timeout => { state := s }
    | _ => s.complain 2 (s.remark line f.message)
  Effect.route s.wiring { e with written := f.progress.written ++ e.written, stop := some f.stop }

/-- The shell says what it runs, if it is told to. -/
def traced (s : State) (words : List String) : List (Stream × ByteArray) :=
  if s.flags.contains 'x' && !words.isEmpty then
    [(.errors, ("+ " ++ " ".intercalate words ++ "\n").toUTF8)]
  else []

/-- What a function has for itself is as before. -/
def restoreLocals (locals : List (String × Option String)) (s : State) : State :=
  locals.foldl (fun s (name, value?) =>
    match value? with
    | some value => s.bind name value
    | none => s.unbind name) s

/-- Runs the body of a function with its arguments. -/
def callFunction (d : Deeper) (tested : Bool) (body : Script) (args : List String) (s : State) :
    Effect :=
  let e := d.script tested body
    { s with arguments := s.arguments.take 1 ++ args, locals := [], loops := 0 }
  let t := restoreLocals e.state.locals e.state
  { e with
    state := { t with arguments := s.arguments, locals := s.locals, loops := s.loops }
    stop := e.stop.filter (· ≠ .back) }

/-- What the shell says about a name: how it would be run. -/
def describe (s : State) (long : Bool) (name : String) : Option String :=
  let said (text : String) : Option String := some (if long then name ++ " is " ++ text else name)
  let own := ["command", "type", "wait", "pwd", "true", "false"].contains name
  if (s.functions.lookup name).isSome then said "a shell function"
  else if specialNames.contains name then said "a special shell builtin"
  else if own || (builtin? 1 name).isSome then said "a shell builtin"
  else if reservedWords.contains name then said "a shell keyword"
  else if isProgram name then
    some (if long then name ++ " is " ++ programPath name else programPath name)
  else none

/-- Runs a command whose words are known, in a state with its streams and input. What it writes has
gone to its targets. -/
def runWords (d : Deeper) (tested : Bool) (line : Nat) (words : List String) (s : State) : Effect :=
  let routed (e : Effect) : Effect := Effect.route s.wiring e
  match words with
  | [] => { state := s }
  | name :: args =>
    match s.functions.lookup name, name, args with
    | some body, _, _ => callFunction d tested body args s
    | none, "eval", args => runText d tested (" ".intercalate args) s
    | none, ".", file :: _ =>
      match s.tree.read (s.path file) with
      | .ok content =>
        let e := runText d tested (Text.decodeLossy content) s
        { e with stop := e.stop.filter (· ≠ .back) }
      | .error _ =>
        routed { s.complain 2 (s.remark line (".: cannot open " ++ file ++ ": No such file")) with
          stop := some .exit }
    | none, "exec", program :: args =>
      let s := { s with farewell := none }
      if !program.contains '/' && !isProgram program then
        routed { s.complain 127 (s.remark line ("exec: " ++ program ++ ": not found")) with
          stop := some .exit }
      else
        let e := (startProgram d line (program :: args) { s with wiring := {} }).asProgram s
        routed { e with stop := e.stop.or (some .exit) }
    | none, "exec", [] => s.finish 0
    | none, "wait", _ =>
      let e := Effect.joined { state := s } true
      { e with state := { e.state with status := 0 } }
    | none, "command", "-v" :: names | none, "command", "-V" :: names =>
      let found := names.filterMap (describe s (args.head? == some "-V"))
      routed { s.print (unlines found) with
        state := { s with status := if found.length = names.length then 0 else 127 } }
    | none, "command", program :: args =>
      match builtin? line program with
      | some run => routed (run args s)
      | none => routed ((startProgram d line (program :: args) { s with wiring := {} }).asProgram s)
    | none, "type", names =>
      let said := names.map fun n => (describe s true n).getD (n ++ ": not found")
      let known := names.all fun n => (describe s true n).isSome
      routed { s.print (unlines said) with state := { s with status := if known then 0 else 127 } }
    | none, name, args =>
      match builtin? line name with
      | some run => routed (run args s)
      | none => routed ((startProgram d line words { s with wiring := {} }).asProgram s)

/-- Puts back the parameters that were set for one command only. -/
def restoreAssigned (before : State) (names : List String) (s : State) : State :=
  names.foldl (fun s name =>
    let t :=
      match before.bindings.lookup name with
      | some value => s.bind name value
      | none => s.unbind name
    { t with exported := if before.exported.contains name then name :: t.exported.filter (· ≠ name)
        else t.exported.filter (· ≠ name) }) s

/-- Runs a simple command: its words are expanded, its streams are connected, its parameters are set,
and then it is run. -/
def runSimple (d : Deeper) (tested : Bool) (line : Nat) (words : List Word) (rs : List Redirection)
    (s : State) : Effect :=
  let run := runApart d
  let assigned := (words.takeWhile fun w => (assignment? w).isSome).filterMap assignment?
  let steps : Expander (List String × Option String × List String) := do
    let fields ← wordsFields run (words.drop assigned.length)
    let fault ← connectAll run rs
    match fault with
    | some text => return (fields, some text, [])
    | none => return (fields, none, ← assignAll run assigned)
  match steps { state := s } with
  | .error f =>
    let e := f.effect line
    { e with state := { e.state with wiring := s.wiring, input := s.input } }
  | .ok ((fields, fault, assignments), p) =>
    let t := p.state
    let special := fields.head?.any fun name =>
      specialNames.contains name && (s.functions.lookup name).isNone
    let said : Effect :=
      Effect.route s.wiring { state := t, written := p.written ++ traced s (assignments ++ fields) }
    let t := said.state
    let names := assigned.map (·.1)
    let restored (e : Effect) : Effect := { e with state := e.state.reconnected rs s }
    match fault, fields with
    | some text, _ =>
      let e := Effect.route s.wiring (t.complain 2 (t.remark line text))
      restored (said.followedBy (if special then { e with stop := some .exit } else e))
    | none, [] => restored (said.followedBy { state := { t with status := p.substituted.getD 0 } })
    | none, ["exec"] => said.followedBy { state := { t with status := 0 } }
    | none, fields =>
      let t := { t with exported := names ++ t.exported }
      let e := said.followedBy (runWords d tested line fields t)
      let e := restored e
      if special then { e with state := { e.state with exported := s.exported ++ e.state.exported } }
      else { e with state := restoreAssigned s names e.state }

end Testsmith.Shell
