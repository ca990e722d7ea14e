/-
# Running scripts

A script changes the tree, writes to two streams and takes time. Nothing comes after its exit or
after the time has run out. Scripts and programs may run others, to some depth.

Key definitions: `Shell.repeatTurns`, `Shell.runPipe`, `Shell.runScript`, `Shell.deeperAt`,
`Shell.builder`.
-/
import Testsmith.Shell.Command
import Testsmith.Verifier

namespace Testsmith.Shell

/-! ### Scripts -/

/-- Goes on with another command, unless the first was the last. -/
def andThenRun (e : Effect) (next : State → Effect) : Effect :=
  match e.stop with
  | none => e.followedBy (next e.state)
  | some _ => e

/-- A failure that is not tested ends the script if it is told to. -/
def checked (tested : Bool) (e : Effect) : Effect :=
  match e.stop with
  | none =>
    let fails := e.state.flags.contains 'e' && e.state.status ≠ 0
    if fails && !tested then { e with stop := some .exit } else e
  | some _ => e

/-- How often a loop may turn before it counts as one without an end. -/
def turnLimit : Nat := 100000

/-- Ends the turn of a loop: whether the loop goes on, and why nothing comes after it. -/
def afterTurn (stop : Option Stop) : Bool × Option Stop :=
  match stop with
  | none | some (.next 0) => (true, none)
  | some (.leave 0) => (false, none)
  | some (.leave (n + 1)) => (false, some (.leave n))
  | some (.next (n + 1)) => (false, some (.next n))
  | some s => (false, some s)

/-- Repeats a turn, which says whether another one follows. What is written is gathered backwards. -/
def repeatTurns (turn : State → Effect × Bool) :
    (bound : Nat) → List (List (Stream × ByteArray)) → State → Effect
  | 0, written, s =>
    { state := { s with left := 0 }, written := written.reverse.flatten, stop := some .timeout }
  | bound + 1, written, s =>
    let (e, again) := turn s
    let written := e.written :: written
    if again then repeatTurns turn bound written e.state
    else { e with written := written.reverse.flatten }

/-- Runs a loop, which counts for what is in it. -/
def inLoop (loop : State → Effect) (s : State) : Effect :=
  let e := loop { s with loops := s.loops + 1 }
  { e with state := { e.state with loops := s.loops } }

/-- One turn of a loop with a condition. `last` is the status of the body in the turn before. -/
def loopTurn (condition body : State → Effect) (whileFails : Bool) (s : State) : Effect × Bool :=
  let last := s.status
  let c := condition s
  match c.stop with
  | some _ =>
    let (again, stop) := afterTurn c.stop
    ({ c with stop }, again)
  | none =>
    if (c.state.status = 0) = whileFails then
      ({ c with state := { c.state with status := last } }, false)
    else
      let e := c.followedBy (body c.state)
      let (again, stop) := afterTurn e.stop
      ({ e with stop }, again)

/-- Runs a body for each value. -/
def forValues (body : State → Effect) (name : String) (values : List String) (s : State) : Effect :=
  let (e, _) := values.foldl (fun (e, goesOn) value =>
    if !goesOn then (e, false)
    else
      let f := e.followedBy (body (e.state.bind name value))
      let (again, stop) := afterTurn f.stop
      ({ f with stop }, again)) (s.finish 0, true)
  e

/-- Does something with what words stand for, or ends the script. -/
def withExpanded {α : Type} (x : Expander α) (line : Nat) (s : State) (next : α → State → Effect) :
    Effect :=
  match x { state := s } with
  | .error f => f.effect line
  | .ok (a, p) =>
    let said := Effect.route s.wiring { state := p.state, written := p.written }
    said.followedBy (next a said.state)

/-- Runs a body with its streams connected. -/
def withRedirections (d : Deeper) (rs : List Redirection) (body : State → Effect) (s : State) :
    Effect :=
  withExpanded (connectAll (runApart d) rs) 1 s fun fault t =>
    match fault with
    | some text =>
      let e := Effect.route s.wiring (t.complain 2 (t.remark 1 text))
      { e with state := { e.state with wiring := s.wiring, input := s.input } }
    | none =>
      let e := body t
      { e with state := e.state.reconnected rs s }

/-- Runs a body in a shell of its own. -/
def asSubshell (body : State → Effect) (s : State) : Effect :=
  ((body { s with farewell := none, loops := 0, jobs := [] }).joined false).asProgram s

/-- Runs one command with its output as the input of another. -/
def runPipe (first second : State → Effect) (s : State) : Effect :=
  let own := (s.wiring.set 1 (.stream .output)).set 2 (.stream .errors)
  let e := asSubshell first { s with wiring := own }
  let errors := Effect.route s.wiring
    { state := { e.state with wiring := s.wiring }, written := e.written.filter (·.1 = .errors) }
  match e.stop with
  | some _ => { errors with stop := e.stop }
  | none =>
    let inner := { errors.state with input := { bytes := e.stream .output } }
    let f := asSubshell second inner
    errors.followedBy { f with state := { f.state with input := s.input } }

/-- The script may write to the streams of the shell: not both go elsewhere. -/
def holdsStreams : Script → Bool
  | .simple _ _ rs | .group _ _ rs =>
    let goes (n : Nat) : Bool := rs.any fun r => match r with
      | .toFile m _ _ => m = n
      | .copy m k => m = n && k ≠ n
      | _ => false
    !(goes 1 && goes 2)
  | _ => true

/-- Runs a script. If it is `tested`, its failure is looked at and does not end the script around it. -/
def runScript (d : Deeper) (tested : Bool) : Script → State → Effect
  | .skip, s => { state := s }
  | .simple line words rs, s => checked tested (runSimple d tested line words rs s)
  | .sequence a b, s => andThenRun (runScript d tested a s) (runScript d tested b)
  | .andThen a b, s =>
    andThenRun (runScript d true a s) fun t =>
      if t.status = 0 then runScript d tested b t else { state := t }
  | .orElse a b, s =>
    andThenRun (runScript d true a s) fun t =>
      if t.status = 0 then { state := t } else runScript d tested b t
  | .negate a, s =>
    andThenRun (runScript d true a s) fun t => t.finish (if t.status = 0 then 1 else 0)
  | .pipe a b, s => checked tested (runPipe (runScript d tested a) (runScript d tested b) s)
  | .background a, s =>
    let e := asSubshell (runScript d tested a) { s with input := {} }
    let job : Job := ⟨e.written, e.state.left, e.stop.isNone, holdsStreams a⟩
    { state :=
        { e.state with status := 0, left := s.left, input := s.input, jobs := s.jobs ++ [job] } }
  | .group subshell body rs, s =>
    let run (t : State) : Effect :=
      if subshell then asSubshell (runScript d tested body) t else runScript d tested body t
    let e := withRedirections d rs run s
    if subshell || !rs.isEmpty then checked tested e else e
  | .branch condition yes no, s =>
    andThenRun (runScript d true condition s) fun t =>
      if t.status = 0 then runScript d tested yes t
      else if no matches .skip then t.finish 0
      else runScript d tested no t
  | .loop whileFails condition body, s =>
    inLoop (repeatTurns (loopTurn (runScript d true condition) (runScript d tested body) whileFails)
      turnLimit []) { s with status := 0 }
  | .each name values body, s =>
    match values with
    | none => inLoop (forValues (runScript d tested body) name (s.arguments.drop 1)) s
    | some words =>
      withExpanded (wordsFields (runApart d) words) 1 s fun values t =>
        inLoop (forValues (runScript d tested body) name values) t
  | .choice subject patterns body otherwise, s =>
    withExpanded (wordText (runApart d) subject) 1 s fun text t =>
      withExpanded (firstFit (runApart d) patterns text) 1 t fun hit t =>
        let next := if hit then body else otherwise
        if next matches .skip then t.finish 0
        else if hit then runScript d tested body t
        else runScript d tested otherwise t
  | .define name body, s =>
    { s with functions := (name, body) :: s.functions.filter (·.1 ≠ name) }.finish 0
where
  /-- The text is of one of the patterns. -/
  firstFit (run : String → State → Effect) : List Word → String → Expander Bool
    | [], _ => return false
    | w :: ws, text => do
      let pattern ← wordPattern run w
      if fits pattern text.toList then return true else firstFit run ws text

/-- What can be run at a depth. -/
def deeperAt : (depth : Nat) → Deeper
  | 0 =>
    let tooDeep (s : State) : Effect :=
      { s.complain 2 (s.remark 1 "Maximum function recursion depth (1000) reached") with
        stop := some .exit }
    ⟨fun _ _ => tooDeep, fun _ _ => tooDeep⟩
  | depth + 1 =>
    let d := deeperAt depth
    ⟨runScript d, startProgram d⟩

/-! ### Builds -/

/-- How deep scripts and programs run others. -/
def depthLimit : Nat := 200

/-- The end of a build that had an effect. -/
def Effect.buildEnd (e : Effect) : BuildEnd :=
  match e.stop with
  | some .timeout => .timedOut
  | _ => .exited (e.state.status = 0) (e.stream .output) (e.stream .errors)

/-- Runs a program with the utilities as the only programs there are. A path to a file leads to no
program, since no file of a tree can be executed, and neither does a directory. No program ends within
no time. -/
def builder : Builder := fun directory timeout program arguments tree =>
  let name := programName program
  let s : State := { tree, directory, arguments := [program], left := timeout }
  if (program :: arguments).any (·.contains '\x00') then
    (.notStarted "nul byte found in provided data", tree)
  else
    let started : Except IoError Effect :=
      if name.contains '/' then
        match tree.find (s.path name) with
        | .error e => .error e
        | .ok _ => .error .denied
      else if name = "." || name = ".." then .error .denied
      else if isProgram name then .ok ((deeperAt depthLimit).program 1 (name :: arguments) s)
      else .error .notFound
    match started with
    | .error e => (.notStarted e.message, tree)
    | .ok e => if timeout = 0 then (.timedOut, tree) else (e.buildEnd, e.state.tree)

end Testsmith.Shell
