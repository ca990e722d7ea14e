/-
# Reports as JSON

Plans, indexes and runs as values, and the paths in them. Each run bears a stamp: a name for it, when
it began and how long it took.

Key definitions: `PlanReport.toJson`, `SymbolIndex.toJson`, `RunStamp`, `RunReport.toJson`,
`RunReport.paths`.
-/
import Testsmith.Json.Value
import Testsmith.Plan
import Testsmith.Run

namespace Testsmith

/-! ### Plans -/

def MockTarget.toJson (t : MockTarget) : Json :=
  .object [("name", .text t.name), ("type_name", .text t.typeName)]

/-- A strategy, with what it is applied to. -/
def Strategy.toJson : Strategy → Json
  | skip reason => .object [("strategy", .text "skip"), ("detail", .text reason.label)]
  | model => .object [("strategy", .text "model_strategy")]
  | plain => .object [("strategy", .text "plain_strategy")]
  | mock targets => .object [
    ("strategy", .text "mock_dependency_strategy"),
    ("detail", .array (targets.map MockTarget.toJson))]

def Collision.toJson (c : Collision) : Json := .object [
  ("simple_name", .text c.simpleName),
  ("qualified_names", .texts c.qualifiedNames),
  ("files", .texts (c.files.map Path.text))]

def PlanEntry.toJson (e : PlanEntry) : Json := .object [
  ("file", .text e.file),
  ("class_name", .text e.className),
  ("stereotype", .text e.stereotype.label),
  ("strategy", e.strategy.toJson),
  ("test_path", .ofOption (fun p => .text p.text) e.testPath),
  ("methods", .natural e.methods),
  ("warnings", .texts e.warnings)]

def PlanReport.toJson (r : PlanReport) : Json := .object [
  ("symbols", .natural r.symbols),
  ("collisions", .array (r.collisions.map Collision.toJson)),
  ("files", .array (r.files.map PlanEntry.toJson))]

/-- The paths in a plan. -/
def PlanReport.paths (r : PlanReport) : List Path :=
  r.collisions.flatMap Collision.files ++ r.files.filterMap PlanEntry.testPath

/-! ### Indexes -/

/-- A collision, its keys in order. -/
def Collision.toSortedJson (c : Collision) : Json := .object [
  ("files", .texts (c.files.map Path.text)),
  ("qualified_names", .texts c.qualifiedNames),
  ("simple_name", .text c.simpleName)]

/-- An index, its keys in order. -/
def SymbolIndex.toJson (i : SymbolIndex) : Json := .object [
  ("collisions", .array (i.collisions.map Collision.toSortedJson)),
  ("symbols", .object (i.pairs.map fun (name, qualified) => (name, .text qualified)))]

/-- The paths in an index. -/
def SymbolIndex.paths (i : SymbolIndex) : List Path := i.collisions.flatMap Collision.files

/-! ### Runs -/

def TokenUsage.toJson (u : TokenUsage) : Json :=
  .object [("input_tokens", .natural u.input), ("output_tokens", .natural u.output)]

def FileStatus.entries : FileStatus → List (String × Json)
  | generated path => [("status", .text "generated"), ("test_path", .text path.text)]
  | skipped reason => [("status", .text "skipped"), ("reason", .text reason.text)]
  | failed f => [("status", .text "failed"), ("stage", .text f.stage), ("error", .text f.message)]

def FileOutcome.toJson (o : FileOutcome) : Json := .object ([
  ("file", .text o.file),
  ("class_name", .text o.className),
  ("strategy", .ofOption (fun s => .text s.label) o.strategy),
  ("attempts", .natural o.attempts)] ++ o.status.entries)

/-- What tells one run from another. -/
structure RunStamp where
  id : String
  startedAt : String
  /-- How long the run took, in milliseconds. -/
  duration : Nat
  deriving DecidableEq, Repr

/-- A name made of sixteen bytes, marked as a random one. -/
def RunStamp.idOf (bytes : List UInt8) : String :=
  let marked := bytes.zipIdx.map fun (b, i) =>
    if i = 6 then b &&& 0x0f ||| 0x40 else if i = 8 then b &&& 0x3f ||| 0x80 else b
  let part (start count : Nat) : String := Text.hexPairs ((marked.drop start).take count)
  "-".intercalate [part 0 4, part 4 2, part 6 2, part 8 2, part 10 6]

/-- The report of a run that was stamped and asked the given model of a provider. -/
def RunReport.toJson (r : RunReport) (stamp : RunStamp) (provider model : String) : Json := .object [
  ("run_id", .text stamp.id),
  ("started_at", .text stamp.startedAt),
  ("duration_ms", .natural stamp.duration),
  ("provider", .text provider),
  ("model", .text model),
  ("usage", r.usage.toJson),
  ("files", .array (r.files.map FileOutcome.toJson))]

/-- The path of a test that was generated. -/
def FileStatus.path? : FileStatus → Option Path
  | generated path => some path
  | skipped _ | failed _ => none

/-- The paths in the report of a run: those of the tests. -/
def RunReport.paths (r : RunReport) : List Path := r.files.filterMap (·.status.path?)

end Testsmith
