/-
# Reports in lines

Plans, indexes and runs as they are shown to people: a line for each entry, in columns.

Key definitions: `padded`, `PlanReport.lines`, `SymbolIndex.lines`, `RunReport.lines`, `asText`.
-/
import Testsmith.Report.Json

namespace Testsmith

/-- Lines one after another, each with its ending. -/
def asText (lines : List String) : String := String.join (lines.map (· ++ "\n"))

/-- A text in a column of so many characters. A longer one is kept. -/
def padded (width : Nat) (s : String) : String :=
  s ++ String.ofList (List.replicate (width - s.length) ' ')

/-! ### Plans -/

/-- What a plan says about the strategy for a file. -/
def Strategy.detail : Strategy → String
  | skip reason => "skip (" ++ reason.text ++ ")"
  | mock [] => "mock"
  | mock targets => "mock [" ++ ", ".intercalate (targets.map MockTarget.name) ++ "]"
  | s => s.label

def PlanEntry.lines (e : PlanEntry) : List String :=
  ("  " ++ padded 50 e.file ++ " " ++ padded 12 e.stereotype.label ++ " " ++ e.strategy.detail) ::
    e.warnings.map ("      warning: " ++ ·)

/-- The plan for the project at a root. -/
def PlanReport.lines (r : PlanReport) (root : Path) : List String :=
  ["Plan for " ++ root.text ++ " (" ++ toString r.files.length ++ " files, " ++ toString r.symbols ++
    " indexed types)", ""] ++
  r.files.flatMap PlanEntry.lines ++
  if r.collisions.isEmpty then []
  else ["", "  " ++ toString r.collisions.length ++
    " simple-name collision(s); run \x60scribe index\x60 for details."]

/-! ### Indexes -/

def Collision.line (c : Collision) : String :=
  "    " ++ c.simpleName ++ " -> " ++ c.qualifiedNames.getLast?.getD "" ++ " (candidates: " ++
    ", ".intercalate c.qualifiedNames ++ ")"

/-- The index of the types under a source root. -/
def SymbolIndex.lines (i : SymbolIndex) (sourceRoot : Path) : List String :=
  ["Symbol index for " ++ sourceRoot.text ++ " (" ++ toString i.size ++ " types)", ""] ++
  i.pairs.map (fun (name, qualified) => "  " ++ padded 30 name ++ " " ++ qualified) ++
  if i.collisions.isEmpty then []
  else ["", "  Collisions (" ++ toString i.collisions.length ++ "):"] ++
    i.collisions.map Collision.line

/-! ### Runs -/

def FileOutcome.line (o : FileOutcome) : String :=
  match o.status with
  | .generated path =>
    "  ok      " ++ padded 50 o.file ++ " -> " ++ path.text ++ " (" ++ toString o.attempts ++
      " attempt" ++ (if o.attempts = 1 then "" else "s") ++ ")"
  | .skipped reason => "  skip    " ++ padded 50 o.file ++ " " ++ reason.text
  | .failed f => "  FAILED  " ++ padded 50 o.file ++ " [" ++ f.stage ++ "] " ++ f.message

/-- Milliseconds as seconds with two places, a half going up. -/
def secondsText (milliseconds : Nat) : String :=
  let hundredths := (milliseconds + 5) / 10
  toString (hundredths / 100) ++ "." ++ toString (hundredths / 10 % 10) ++ toString (hundredths % 10)

/-- The report of a run over the project at a root. -/
def RunReport.lines (r : RunReport) (stamp : RunStamp) (root : Path) : List String :=
  ["Scribe run " ++ stamp.id ++ " in " ++ root.text, ""] ++
  r.files.map FileOutcome.line ++
  ["",
    "  Generated: " ++ toString r.generated,
    "  Skipped:   " ++ toString r.skipped,
    "  Failed:    " ++ toString r.failed,
    "  Tokens:    " ++ toString r.usage.input ++ " in / " ++ toString r.usage.output ++ " out",
    "  Duration:  " ++ secondsText stamp.duration ++ "s"]

end Testsmith
