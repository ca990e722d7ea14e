/-
# Doing a command

What a command does with a tree of files, and what it says then. All that a command needs from around
it is an argument: where it stands, its environment, how requests and builds are done, and which names
in the tree are no texts. A path with such a name cannot be written as JSON.

Key definitions: `Cli.Surroundings`, `Cli.Output`, `Cli.Answer`, `Cli.Command.run`,
`Cli.Request.answer`.
-/
import Testsmith.Cli.Arguments
import Testsmith.Cli.Failure
import Testsmith.Provider.Basic
import Testsmith.Report.Lines
import Testsmith.Verifier

namespace Testsmith.Cli

/-- What is around a command. -/
structure Surroundings (σ : Type) where
  directory : Path
  environment : String → Option String
  transport : Http.Transport σ
  builder : Builder
  /-- The names in the tree whose bytes are no text. In a path they stand as they are shown, and
  patterns meet them so. -/
  foreign : String → Bool := fun _ => false

variable {σ : Type}

/-- The path is a text: none of the names in it is a foreign one. -/
def Surroundings.isText (w : Surroundings σ) (p : Path) : Bool :=
  p.components.all fun c => !w.foreign c.text

/-- What a command has to say. -/
inductive Output
  | text (s : String)
  /-- The report of a run, as JSON or not. As JSON it has only paths that are texts
  (`concludeRun`). -/
  | report (json : Bool) (root : Path) (provider model : String) (r : RunReport)

/-- The text of an output. A report is stamped. -/
def Output.render (stamp : RunStamp) : Output → String
  | text s => s
  | report true _ provider model r => (r.toJson stamp provider model).pretty ++ "\n"
  | report false root _ _ r => asText (r.lines stamp root)

/-- What came of a command. -/
structure Answer where
  output : Output
  failure : Option Failure

def Answer.done (text : String) : Answer := ⟨.text text, none⟩

def Answer.refused (f : Failure) : Answer := ⟨.text "", some f⟩

/-- The number that the program ends with. -/
def Answer.exitCode (a : Answer) : Nat := (a.failure.map Failure.exitCode).getD 0

/-- The directory that a path means, written in the plainest way. -/
def resolve (directory : Path) (path : String) (t : FileTree) : Except Failure Path :=
  match t.find (directory.join path) with
  | .ok (l, _) => .ok ⟨"/" ++ "/".intercalate l⟩
  | .error e => .error (.unresolved path e)

/-- The project at a path. -/
def openProject (directory : Path) (path : String) (t : FileTree) : Except Failure Project := do
  let root ← resolve directory path t
  let config ← (Config.load t root).mapError (.work ("Cannot load config for " ++ root.text))
  (Project.open t root config).mapError fun e => .work ("Cannot open project " ++ root.text) (.config e)

/-- The project at a path, as commands see it. Files are found by patterns, which are texts, so that
there are none below a source root that is no text. -/
def Surroundings.project (w : Surroundings σ) (path : String) (t : FileTree) :
    Except Failure Project := do
  let p ← openProject w.directory path t
  return if w.isText p.sourceRoot then p else { p with config.project.includePatterns := [] }

/-- The environment variable that holds the key for the project at a path, if there is one. -/
def keyVariable? (directory : Path) (path : String) (t : FileTree) : Option String :=
  (openProject directory path t).toOption.map (·.config.llm.apiKeyEnv)

/-- The pattern that chooses files. -/
def readOnly (only : Option String) : Except Failure (Option Glob.Pattern) :=
  only.mapM fun text => (Glob.Pattern.parse text).mapError (.pattern text)

/-- Writes the usual configuration. -/
def writeConfig (directory : Path) (path : String) (force : Bool) (t : FileTree) :
    Except Failure String × FileTree :=
  match resolve directory path t with
  | .error f => (.error f, t)
  | .ok root =>
    let file := Config.pathFor root
    if t.has file && !force then (.error (.configured file), t)
    else
      match ({} : Config).toToml with
      | .error e => (.error (.work "Cannot serialize default config" (.config e)), t)
      | .ok text =>
        let folder := root.join Config.directoryName
        match t.makeDirs folder with
        | (.error e, t) => (.error (.unwritten ("Cannot create " ++ folder.text) e), t)
        | (.ok (), t) =>
          match t.write file text.toUTF8 with
          | .error e => (.error (.unwritten ("Cannot write config: " ++ file.text) e), t)
          | .ok t =>
            (.ok (asText ["Wrote " ++ file.text, "",
              "  Set the API key named by llm.api_key_env before running \x60scribe generate\x60."]), t)

/-- An index is made a value before it is written as JSON. -/
def listIndex (w : Surroundings σ) (path : String) (json : Bool) (t : FileTree) :
    Except Failure String := do
  let p ← w.project path t
  let index ← (p.index t).mapError fun e => .work "Cannot build symbol index" (.config e)
  if !json then .ok (asText (index.lines p.sourceRoot))
  else if index.paths.all w.isText then .ok (index.toJson.pretty ++ "\n")
  else .error .foreignValue

def showPlan (w : Surroundings σ) (path : String) (json : Bool) (only : Option String)
    (t : FileTree) : Except Failure String := do
  let p ← w.project path t
  let only ← readOnly only
  let plan ← (p.plan t only).mapError fun e => .work "Cannot plan generation run" (.config e)
  if !json then .ok (asText (plan.lines p.root))
  else if plan.paths.all w.isText then .ok (plan.toJson.pretty ++ "\n")
  else .error .foreignPath

/-- The provider that a configuration names, with its key. -/
def openProvider (c : Config.Llm) (environment : String → Option String) :
    Except Failure Provider := do
  let doing := "Cannot create LLM provider"
  let key ← (c.apiKey environment).mapError fun e => .work doing (.config e)
  (Provider.create c.provider c.model key c.baseUrl).mapError fun e => .work doing (.generation e)

def verifierFor (p : Project) : Verifier :=
  ⟨p.root, p.config.verify.command, p.config.verify.successMarker,
    1000 * p.config.verify.timeoutSecs.toNat⟩

/-- A provider that is asked over the transport, and a verifier that runs builds. -/
def Surroundings.collaborators (w : Surroundings σ) (provider : Provider) (p : Project) :
    Collaborators (FileTree × σ) where
  generate prompt s :=
    let (reply, inner) := provider.generate w.transport p.config.llm.options prompt s.2
    (reply, s.1, inner)
  verify a s :=
    let (result, t) := (verifierFor p).verify w.builder a s.1
    (result, t, s.2)

/-- What has to be there before tests can be generated. -/
def prepare (w : Surroundings σ) (path : String) (only : Option String) (t : FileTree) :
    Except Failure (Project × Option Glob.Pattern × Provider) := do
  let p ← w.project path t
  let only ← readOnly only
  let provider ← openProvider p.config.llm w.environment
  return (p, only, provider)

/-- What is said about a run. Nothing is, if the report cannot be written as JSON. -/
def concludeRun (w : Surroundings σ) (json : Bool) (p : Project) (provider : Provider)
    (r : RunReport) : Answer :=
  if json && !r.paths.all w.isText then .refused .foreignPath
  else
    { output := .report json p.root provider.name provider.model r
      failure := if r.isPartial then some (.incomplete r.failed r.files.length) else none }

def generateTests (w : Surroundings σ) (path : String) (json : Bool) (only : Option String)
    (s : FileTree × σ) : Answer × FileTree × σ :=
  match prepare w path only s.1 with
  | .error f => (.refused f, s)
  | .ok (p, only, provider) =>
    match p.run (w.collaborators provider p) only s with
    | .error (.config e) => (.refused (.work "Generation run failed" (.config e)), s)
    | .error .overflow => (.refused .overflow, s)
    | .ok (report, _, s) => (concludeRun w json p provider report, s)

def answerOf : Except Failure String → Answer
  | .ok text => .done text
  | .error f => .refused f

/-- Does a command. -/
def Command.run (w : Surroundings σ) (c : Command) (s : FileTree × σ) : Answer × FileTree × σ :=
  match c with
  | .init path force =>
    let (result, t) := writeConfig w.directory path force s.1
    (answerOf result, t, s.2)
  | .index path json => (answerOf (listIndex w path json s.1), s)
  | .plan path json only => (answerOf (showPlan w path json only s.1), s)
  | .generate path json only => generateTests w path json only s

/-! ### Command lines -/

def versionText : String := "scribe 0.1.0\n"

def helpText : String := asText [
  "Generate compiling JUnit 5 tests for Java projects with an LLM",
  "",
  "Usage: scribe [-v] [-q] <command> [options] [path]",
  "",
  "  init [--force]                     Write a default .scribe/config.toml",
  "  index [--json]                     Print the symbol index",
  "  plan [--json] [--only <glob>]      Show what a run would do",
  "  generate [--json] [--only <glob>]  Generate, verify and write tests",
  "  help, --help, --version"]

/-- The number that the program ends with when its arguments are wrong. -/
def usageExitCode : Nat := 2

/-- Does what is asked. -/
def Request.answer (w : Surroundings σ) (r : Request) (s : FileTree × σ) : Answer × FileTree × σ :=
  match r with
  | .help => (.done helpText, s)
  | .version => (.done versionText, s)
  | .run command _ _ => command.run w s

end Testsmith.Cli
