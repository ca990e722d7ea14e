/-
# Runs

The files of a project one after another: a test is generated, verified and written for each. What
goes wrong with one file does not stop the others.

The provider and the verifier act on the tree of files and on a state of their own.

Key definitions: `FileFailure`, `FileStatus`, `FileOutcome`, `RunReport`, `Progress`,
`Artifact.save`, `Project.processFile`, `Project.run`.
-/
import Testsmith.Project

namespace Testsmith

/-- Why there is no test for a file. -/
inductive FileFailure
  | read (error : IoError)
  | generate (error : RepairError)
  | verify (error : VerifyError)
  | write (error : IoError)
  deriving DecidableEq, Repr

namespace FileFailure

/-- Where the work on the file stopped. -/
def stage : FileFailure → String
  | read _ => "read"
  | generate _ => "generate"
  | verify _ => "verify"
  | write _ => "write"

def message : FileFailure → String
  | read e => e.message
  | generate e => e.message
  | verify e => (Error.verify e).message
  | write e => e.message

end FileFailure

/-- How the work on a file ended. -/
inductive FileStatus
  | generated (testPath : Path)
  | skipped (reason : SkipReason)
  | failed (failure : FileFailure)
  deriving DecidableEq, Repr

structure FileOutcome where
  file : String
  className : String
  /-- The strategy, once it was chosen. -/
  strategy : Option Strategy
  attempts : Nat
  status : FileStatus
  deriving DecidableEq, Repr

structure RunReport where
  usage : TokenUsage
  files : List FileOutcome
  deriving DecidableEq, Repr

namespace RunReport

def generated (r : RunReport) : Nat := r.files.countP fun f => f.status matches .generated _

def skipped (r : RunReport) : Nat := r.files.countP fun f => f.status matches .skipped _

def failed (r : RunReport) : Nat := r.files.countP fun f => f.status matches .failed _

/-- Some files have no test because something went wrong. -/
def isPartial (r : RunReport) : Bool := 0 < r.failed

end RunReport

/-- What is told while a run goes on. -/
inductive Progress
  | start (task : String) (total : Nat)
  | workingOn (file : String)
  | message (text : String)
  | advance (count : Nat)
  | finish
  deriving DecidableEq, Repr

/-- Writes a test to its place. -/
def Artifact.save (a : Artifact) (t : FileTree) : Except IoError Unit × FileTree :=
  t.place a.path a.render.toUTF8

namespace Project

variable {σ : Type}

/-- The outcome of a file, the tokens its work took, and the state after it. -/
abbrev Processed (σ : Type) := FileOutcome × TokenUsage × FileTree × σ

/-- The work on the test of a file. -/
def repairJob (p : Project) (index : SymbolIndex) (file : Path) (source : String)
    (facts : SourceFacts) : Repair.Job where
  request := ⟨classify facts, facts, className file, p.testClass file, source⟩
  package := facts.package
  destination := p.testPath file facts
  index
  maxAttempts := p.config.repair.maxAttempts.toNat

/-- The outcome of a file. -/
def outcomeOf (p : Project) (file : Path) (strategy : Option Strategy) (attempts : Nat)
    (status : FileStatus) : FileOutcome :=
  ⟨p.display file, className file, strategy, attempts, status⟩

/-- Takes up the test of a file, or why there is none. -/
def conclude (result : Except RepairError Artifact) (t : FileTree) : FileStatus × FileTree :=
  match result with
  | .error e => (.failed (.generate e), t)
  | .ok artifact =>
    match artifact.save t with
    | (.error e, t) => (.failed (.write e), t)
    | (.ok (), t) => (.generated artifact.path, t)

/-- The work on one file. -/
def processFile (p : Project) (c : Collaborators (FileTree × σ)) (index : SymbolIndex) (file : Path)
    (s : FileTree × σ) : Except Overflow (Processed σ) :=
  match s.1.readText file with
  | .error e => .ok (p.outcomeOf file none 0 (.failed (.read e)), .zero, s)
  | .ok source =>
    let facts := Java.analyze source
    match classify facts with
    | .skip reason => .ok (p.outcomeOf file (some (.skip reason)) 0 (.skipped reason), .zero, s)
    | strategy =>
      match Repair.outcome c (p.repairJob index file source facts) s with
      | (.error .overflow, _) => .error .tokens
      | (.error (.verify e), s) =>
        .ok (p.outcomeOf file (some strategy) 0 (.failed (.verify e)), .zero, s)
      | (.ok o, t, inner) =>
        let (status, t) := conclude o.result t
        .ok (p.outcomeOf file (some strategy) o.attempts.length status, o.usage, t, inner)

/-- What is told after the work on a file. -/
def told (o : FileOutcome) : List Progress :=
  match o.status with
  | .failed f => [.message ("failed " ++ o.file ++ " (" ++ f.stage ++ "): " ++ f.message), .advance 1]
  | _ => [.advance 1]

/-- The work on files one after another: the report, what is told, and the state after it. -/
def processAll (p : Project) (c : Collaborators (FileTree × σ)) (index : SymbolIndex) :
    List Path → TokenUsage → FileTree × σ →
      Except Overflow (RunReport × List Progress × FileTree × σ)
  | [], usage, s => .ok (⟨usage, []⟩, [], s)
  | file :: files, usage, s => do
    let (outcome, spent, s) ← p.processFile c index file s
    match usage.add? spent with
    | none => .error .tokens
    | some usage =>
      let (report, events, s) ← processAll p c index files usage s
      return ({ report with files := outcome :: report.files },
        .workingOn outcome.file :: told outcome ++ events, s)

/-- Why a run gave no report. -/
inductive Stop
  | config (error : ConfigError)
  | overflow
  deriving DecidableEq, Repr

/-- A run over a project, or over those of its files that a pattern matches. -/
def run (p : Project) (c : Collaborators (FileTree × σ)) (only : Option Glob.Pattern)
    (s : FileTree × σ) : Except Stop (RunReport × List Progress × FileTree × σ) :=
  match p.index s.1 with
  | .error e => .error (.config e)
  | .ok index =>
    let files := p.sources s.1 only
    match p.processAll c index files .zero s with
    | .error .tokens => .error .overflow
    | .ok (report, events, s) =>
      .ok (report, .start "generate" files.length :: events ++ [.finish], s)

end Project

end Testsmith
