/-
# Generating a test until it compiles

The attempts at the test of one file, as a machine that takes one step at a time. An attempt asks the
provider for code and lets the verifier build it; a build that fails adds its log to the prompts of
the attempts after it. The run ends with a test that the verifier accepted, after the last attempt
allowed, or when the verifier could not be run.

Provider and verifier are arguments. They may keep a state of their own, of any type, so that they
stand for every behaviour, scripted or not.

Key definitions: `Collaborators`, `Repair.Job`, `Repair.State`, `Repair.Attempt`, `Repair.Run`,
`Repair.step`, `Repair.outcome`.
-/
import Testsmith.Artifact
import Testsmith.Prompt
import Testsmith.Usage

namespace Testsmith

/-- What is sent along with a prompt. -/
structure GenerationOptions where
  temperature : Float
  maxOutputTokens : Nat

/-- What a provider gives. -/
structure Reply where
  text : String
  usage : TokenUsage
  deriving DecidableEq, Repr

/-- The result of a build. -/
structure Verification where
  success : Bool
  log : String
  deriving DecidableEq, Repr

/-- A provider and a verifier that act on a state `σ`. -/
structure Collaborators (σ : Type) where
  generate : String → σ → Except GenerationError Reply × σ
  verify : Artifact → σ → Except VerifyError Verification × σ

/-- A sum of token counts does not fit: the program ends there. -/
inductive Overflow
  | tokens
  deriving DecidableEq, Repr

namespace Repair

/-- The work on one file. -/
structure Job where
  request : TestRequest
  /-- The package of the class under test, empty for the default one. -/
  package : String
  destination : Path
  index : SymbolIndex
  /-- The most attempts allowed; zero allows one as well. -/
  maxAttempts : Nat

/-- The number of attempts a job allows. -/
def Job.bound (j : Job) : Nat := max j.maxAttempts 1

inductive State
  | generating (attempt : Nat)
  | compiling (attempt : Nat) (artifact : Artifact)
  | retrying (attempt : Nat)
  | success (artifact : Artifact)
  | failed
  deriving DecidableEq, Repr

def State.isTerminal : State → Bool
  | success _ | failed => true
  | _ => false

/-- The record of an attempt. -/
structure Attempt where
  /-- The number of the attempt, from one. -/
  index : Nat
  prompt : String
  rawText : Option String := none
  imports : List String := []
  compiled : Bool := false
  failureLog : Option String := none
  generationError : Option GenerationError := none
  deriving DecidableEq, Repr

/-- A run under way. -/
structure Run where
  state : State
  /-- The logs of the builds that failed, oldest first. -/
  failures : List String
  attempts : List Attempt
  usage : TokenUsage
  deriving DecidableEq, Repr

def Run.start : Run := ⟨.generating 1, [], [], .zero⟩

/-- The list with its last member changed. -/
def mapLast {α : Type} (f : α → α) : List α → List α
  | [] => []
  | [a] => [f a]
  | a :: as => a :: mapLast f as

/-- The state after an attempt that failed. -/
def Job.afterFailure (j : Job) (attempt : Nat) : State :=
  if attempt < j.bound then .retrying attempt else .failed

/-- Records an attempt whose generation failed. -/
def Job.rejectGeneration (j : Job) (attempt : Nat) (r : Run) (usage : TokenUsage)
    (e : GenerationError) : Run :=
  { r with
    state := j.afterFailure attempt
    attempts := r.attempts ++
      [{ index := attempt, prompt := j.request.prompt r.failures, generationError := some e }]
    usage }

/-- Records the code of an attempt, which is to be built next. -/
def Job.acceptGeneration (j : Job) (attempt : Nat) (r : Run) (usage : TokenUsage) (text : String) :
    Run :=
  let resolved := resolveImports text j.package j.request.className j.index
  { r with
    state := .compiling attempt
      (.ofResolved j.package j.request.testClass resolved j.destination)
    attempts := r.attempts ++
      [{ index := attempt, prompt := j.request.prompt r.failures, rawText := some text,
         imports := resolved.lines }]
    usage }

/-- Takes up the answer of the provider. Its tokens count even if there is no code in it. -/
def Job.afterReply (j : Job) (attempt : Nat) (r : Run) :
    Except GenerationError Reply → Except Overflow Run
  | .error e => .ok (j.rejectGeneration attempt r r.usage e)
  | .ok reply =>
    match r.usage.add? reply.usage with
    | none => .error .tokens
    | some usage =>
      if (stripFences reply.text).isEmpty then .ok (j.rejectGeneration attempt r usage .empty)
      else .ok (j.acceptGeneration attempt r usage reply.text)

/-- Takes up the answer of the verifier. -/
def Job.afterBuild (j : Job) (attempt : Nat) (artifact : Artifact) (r : Run) (v : Verification) :
    Run :=
  if v.success then
    { r with
      state := .success artifact
      attempts := mapLast (fun a => { a with compiled := true }) r.attempts }
  else
    { r with
      state := j.afterFailure attempt
      failures := r.failures ++ [v.log]
      attempts := mapLast (fun a => { a with failureLog := some v.log }) r.attempts }

/-- What a step leads to: the run after it, and the error if the verifier could not be run. -/
structure Step where
  run : Run
  error : Option VerifyError := none
  deriving DecidableEq, Repr

variable {σ : Type}

/-- One step of a run. A finished run stays as it is. -/
def step (c : Collaborators σ) (j : Job) (r : Run) (s : σ) : Except Overflow Step × σ :=
  match r.state with
  | .generating attempt =>
    let (reply, s) := c.generate (j.request.prompt r.failures) s
    ((j.afterReply attempt r reply).map fun r => { run := r }, s)
  | .compiling attempt artifact =>
    match c.verify artifact s with
    | (.error e, s) => (.ok { run := { r with state := .failed }, error := some e }, s)
    | (.ok v, s) => (.ok { run := j.afterBuild attempt artifact r v }, s)
  | .retrying attempt => (.ok { run := { r with state := .generating (attempt + 1) } }, s)
  | .success _ | .failed => (.ok { run := r }, s)

/-- The most steps from the start of a run to its end. -/
def Job.stepBound (j : Job) : Nat := 3 * j.bound - 1

/-- The end of a run: the test or why there is none, and how it came to that. -/
structure Outcome where
  result : Except RepairError Artifact
  attempts : List Attempt
  usage : TokenUsage

/-- What a run that has ended gives. -/
def Run.finish (r : Run) : Outcome where
  result :=
    match r.state with
    | .success artifact => .ok artifact
    | _ => .error ⟨min r.attempts.length (UInt32.size - 1), r.attempts.getLast?.bind (·.failureLog)⟩
  attempts := r.attempts
  usage := r.usage

/-- How a run ended that gave no outcome. -/
inductive Halt
  | verify (error : VerifyError)
  | overflow
  deriving DecidableEq, Repr

/-- Takes steps until the run ends, at most `bound` of them. -/
def runFrom (c : Collaborators σ) (j : Job) :
    (bound : Nat) → Run → σ → Except Halt Outcome × σ
  | 0, r, s => (.ok r.finish, s)
  | bound + 1, r, s =>
    if r.state.isTerminal then (.ok r.finish, s)
    else
      match step c j r s with
      | (.error .tokens, s) => (.error .overflow, s)
      | (.ok ⟨_, some e⟩, s) => (.error (.verify e), s)
      | (.ok ⟨r, none⟩, s) => runFrom c j bound r s

/-- Runs a job from its start to its end. -/
def outcome (c : Collaborators σ) (j : Job) (s : σ) : Except Halt Outcome × σ :=
  runFrom c j j.stepBound .start s

end Repair

end Testsmith
