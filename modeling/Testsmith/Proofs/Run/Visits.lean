/-
# The files of a run

A run visits its files one after another. What it does with each is kept as a visit: the state
before and after, the calls of the provider and the verifier, and the outcome that goes into the
report (`processAll_visits`). A visit either puts the one test that the verifier approved in its
place, or changes no file at all (`processFile_effect`).

Key definitions: `LeavesTree`, `Visit`, `Project.callsOn`, `Project.visits`, `Effect`.
Key theorems: `processFile_effect`, `processAll_visits`, `run_processAll`.
-/
import Testsmith.Proofs.Files.Additions
import Testsmith.Proofs.Repair.Approval
import Testsmith.Run

namespace Testsmith

open FileTree Repair

variable {σ : Type}

/-- Neither the provider nor the verifier leaves the tree otherwise than it found it. -/
structure LeavesTree (c : Collaborators (FileTree × σ)) : Prop where
  generate : ∀ prompt s, (c.generate prompt s).2.1.Same s.1
  verify : ∀ a s, (c.verify a s).2.1.Same s.1

/-- The work on one file of a run. -/
structure Visit (σ : Type) where
  file : Path
  before : FileTree × σ
  /-- The calls of the provider and the verifier, with the answers. -/
  calls : List Call
  outcome : FileOutcome
  after : FileTree × σ

namespace Project

/-- The calls made for a file. -/
def callsOn (p : Project) (c : Collaborators (FileTree × σ)) (index : SymbolIndex) (file : Path)
    (s : FileTree × σ) : List Call :=
  match s.1.readText file with
  | .error _ => []
  | .ok source =>
    let facts := Java.analyze source
    match classify facts with
    | .skip _ => []
    | _ =>
      let job := p.repairJob index file source facts
      callsFrom c job job.stepBound .start s

/-- The visits of files one after another, up to one that gives no outcome. -/
def visitsFrom (p : Project) (c : Collaborators (FileTree × σ)) (index : SymbolIndex) :
    List Path → FileTree × σ → List (Visit σ)
  | [], _ => []
  | file :: files, s =>
    match p.processFile c index file s with
    | .error _ => []
    | .ok (outcome, _, s') =>
      ⟨file, s, p.callsOn c index file s, outcome, s'⟩ :: visitsFrom p c index files s'

/-- The visits of a run. -/
def visits (p : Project) (c : Collaborators (FileTree × σ)) (only : Option Glob.Pattern)
    (s : FileTree × σ) : List (Visit σ) :=
  match p.index s.1 with
  | .error _ => []
  | .ok index => p.visitsFrom c index (p.sources s.1 only) s

end Project

/-- A test is in its place, and else there are only new directories. -/
structure Wrote (t u : FileTree) (path : Path) (content : ByteArray) (l : Location) : Prop where
  leads : u.locate path = .ok l
  plain : endsAsDirectory path = false
  file : u.node? l = some (.file content)
  keeps : KeepsDirs t u
  others : ∀ m, m ≠ l → AddsAt t u m

/-- What a visit comes to: the test that was approved is in its place, or no file has changed. -/
def Effect (calls : List Call) (t u : FileTree) : FileStatus → Prop
  | .generated path =>
    ∃ a l, approved calls = [a] ∧ a.path = path ∧ Wrote t u path a.render.toUTF8 l
  | _ => Adds t u

theorem Same.wrote {t t' u : FileTree} {path : Path} {content : ByteArray} {l : Location}
    (h : t'.Same t) (hw : Wrote t' u path content l) : Wrote t u path content l where
  leads := hw.leads
  plain := hw.plain
  file := hw.file
  keeps := fun m hm => hw.keeps m (by rw [h, hm])
  others := fun m hm => (Same.adds h.symm m).trans (hw.others m hm)

namespace Project

variable {p : Project} {c : Collaborators (FileTree × σ)} {index : SymbolIndex}

/-- Taking up the result of a repair run writes the test that it ended with, if there is one. -/
theorem conclude_effect {bound : Nat} {j : Job} {s s' : FileTree × σ} {o : Outcome}
    (h : runFrom c j bound .start s = (.ok o, s')) :
    Effect (callsFrom c j bound .start s) s'.1 (conclude o.result s'.1).2
      (conclude o.result s'.1).1 := by
  cases ho : o.result with
  | error e => exact .refl s'.1
  | ok a =>
    have happroved := approved_of_result (fun a ha => by cases ha) h ho
    cases hsave : a.save s'.1 with
    | mk result u =>
      cases result with
      | error e =>
        simp only [conclude, hsave]
        exact place_error hsave
      | ok _ =>
        simp only [conclude, hsave]
        obtain ⟨l, hl, hd, hn, hkeeps, hothers⟩ := place_ok hsave
        exact ⟨a, l, happroved, rfl, hl, hd, hn, hkeeps, hothers⟩

theorem Effect.of_same {calls : List Call} {t t' u : FileTree} {status : FileStatus}
    (h : t'.Same t) (he : Effect calls t' u status) : Effect calls t u status := by
  cases status with
  | generated path =>
    obtain ⟨a, l, ha, hp, hw⟩ := he
    exact ⟨a, l, ha, hp, Same.wrote h hw⟩
  | skipped reason => exact (Same.adds h.symm).trans he
  | failed failure => exact (Same.adds h.symm).trans he

/-! ### One file -/

/-- The file can be read, there is to be a test for it, and this is the work on it. -/
structure Tested (p : Project) (index : SymbolIndex) (t : FileTree) (file : Path) (source : String)
    (j : Job) : Prop where
  read : t.readText file = .ok source
  strategy : (classify (Java.analyze source)).isSkip = false
  job : p.repairJob index file source (Java.analyze source) = j

variable (p c index) in
/-- What the work on a file can come to, with the calls that are made for it. -/
inductive Processing (file : Path) (s : FileTree × σ) :
    (calls : List Call) → (result : Except Overflow (Processed σ)) → Prop
  | unread {e : IoError} (read : s.1.readText file = .error e) :
      Processing file s [] (.ok (p.outcomeOf file none 0 (.failed (.read e)), .zero, s))
  | skipped {source : String} {reason : SkipReason} (read : s.1.readText file = .ok source)
      (strategy : classify (Java.analyze source) = .skip reason) :
      Processing file s []
        (.ok (p.outcomeOf file (some (.skip reason)) 0 (.skipped reason), .zero, s))
  | overflowed {source : String} {j : Job} {s' : FileTree × σ}
      (tested : Tested p index s.1 file source j) (run : outcome c j s = (.error .overflow, s')) :
      Processing file s (callsFrom c j j.stepBound .start s) (.error .tokens)
  /-- The verifier could not be run. -/
  | unbuilt {source : String} {j : Job} {e : VerifyError} {s' : FileTree × σ}
      (tested : Tested p index s.1 file source j)
      (run : outcome c j s = (.error (.verify e), s')) :
      Processing file s (callsFrom c j j.stepBound .start s)
        (.ok (p.outcomeOf file (some (classify (Java.analyze source))) 0 (.failed (.verify e)),
          .zero, s'))
  | ended {source : String} {j : Job} {o : Outcome} {s' : FileTree × σ}
      (tested : Tested p index s.1 file source j) (run : outcome c j s = (.ok o, s')) :
      Processing file s (callsFrom c j j.stepBound .start s)
        (.ok (p.outcomeOf file (some (classify (Java.analyze source))) o.attempts.length
          (conclude o.result s'.1).1, o.usage, (conclude o.result s'.1).2, s'.2))

/-- The work on a file that there is to be a test for. -/
theorem processFile_of_tested {file : Path} {s : FileTree × σ} {source : String} {j : Job}
    (h : Tested p index s.1 file source j) :
    p.callsOn c index file s = callsFrom c j j.stepBound .start s ∧
      p.processFile c index file s = match outcome c j s with
        | (.error .overflow, _) => .error .tokens
        | (.error (.verify e), s') =>
          .ok (p.outcomeOf file (some (classify (Java.analyze source))) 0 (.failed (.verify e)),
            .zero, s')
        | (.ok o, s') =>
          .ok (p.outcomeOf file (some (classify (Java.analyze source))) o.attempts.length
            (conclude o.result s'.1).1, o.usage, (conclude o.result s'.1).2, s'.2) := by
  rw [processFile, callsOn, h.read]
  have hskip := h.strategy
  cases hclass : classify (Java.analyze source) with
  | skip reason =>
    rw [hclass] at hskip
    cases hskip
  | _ =>
    simp only [hclass, h.job, true_and]
    rcases outcome c j s with ⟨(_ | e) | o, s'⟩ <;> rfl

variable (p c index) in
/-- The work on a file is one of the things that can happen. -/
theorem processFile_processing (file : Path) (s : FileTree × σ) :
    Processing p c index file s (p.callsOn c index file s) (p.processFile c index file s) := by
  cases hread : s.1.readText file with
  | error e =>
    rw [processFile, callsOn, hread]
    exact .unread hread
  | ok source =>
    generalize hjob : p.repairJob index file source (Java.analyze source) = j
    cases hclass : classify (Java.analyze source) with
    | skip reason =>
      rw [processFile, callsOn, hread]
      simpa only [hclass] using Processing.skipped hread hclass
    | _ =>
      have tested : Tested p index s.1 file source j := ⟨hread, by rw [hclass]; rfl, hjob⟩
      obtain ⟨hcalls, hfile⟩ := processFile_of_tested (c := c) tested
      rw [hcalls, hfile]
      rcases hrun : outcome c j s with ⟨(_ | e) | o, s'⟩
      · exact .unbuilt tested hrun
      · exact .overflowed tested hrun
      · exact .ended tested hrun

/-- The collaborators leave the tree alone during a repair run. -/
theorem outcome_same (hc : LeavesTree c) {j : Job} {s s' : FileTree × σ}
    {result : Except Halt Outcome} (h : outcome c j s = (result, s')) : s'.1.Same s.1 := by
  have hsame : (outcome c j s).2.1.Same s.1 :=
    runFrom_preserves (P := fun s' => s'.1.Same s.1)
      (fun prompt s' hs => (hc.generate prompt s').trans hs)
      (fun a s' hs => (hc.verify a s').trans hs) (fun _ => rfl)
  rwa [h] at hsame

-- This stays closed where the cases of `Processing` compare outcomes field by field.
attribute [local irreducible] display

/-- **A visit writes the test that was approved, or no file.** -/
theorem processFile_effect (hc : LeavesTree c) {file : Path} {s s' : FileTree × σ} {o : FileOutcome}
    {spent : TokenUsage} (h : p.processFile c index file s = .ok (o, spent, s')) :
    Effect (p.callsOn c index file s) s.1 s'.1 o.status := by
  have hcases := processFile_processing p c index file s
  rw [h] at hcases
  generalize p.callsOn c index file s = calls at hcases
  cases hcases with
  | unread _ => exact .refl s.1
  | skipped _ _ => exact .refl s.1
  | unbuilt _ hrun => exact (outcome_same hc hrun).symm.adds
  | ended _ hrun => exact Effect.of_same (outcome_same hc hrun) (conclude_effect hrun)

/-! ### From file to file -/

/-- The work on one file, and then on those after it. -/
theorem processAll_cons {file : Path} {files : List Path} {usage : TokenUsage}
    {s s' : FileTree × σ} {report : RunReport} {events : List Progress}
    (h : p.processAll c index (file :: files) usage s = .ok (report, events, s')) :
    ∃ o spent s₁ usage' rest events', p.processFile c index file s = .ok (o, spent, s₁) ∧
      p.processAll c index files usage' s₁ = .ok (rest, events', s') ∧
      report.files = o :: rest.files ∧ report.usage = rest.usage ∧
      usage.add? spent = some usage' := by
  rw [processAll] at h
  cases hfile : p.processFile c index file s with
  | error e =>
    rw [hfile] at h
    cases h
  | ok processed =>
    obtain ⟨o, spent, s₁⟩ := processed
    rw [hfile] at h
    simp only [bind, Except.bind] at h
    split at h
    · cases h
    · rename_i usage' hadd
      cases hrest : p.processAll c index files usage' s₁ with
      | error e =>
        simp only [hrest] at h
        cases h
      | ok result =>
        obtain ⟨rest, events', s₂⟩ := result
        simp only [hrest, pure, Except.pure, Except.ok.injEq, Prod.mk.injEq] at h
        obtain ⟨rfl, -, rfl⟩ := h
        exact ⟨o, spent, s₁, usage', rest, events', rfl, hrest, rfl, rfl, hadd⟩

theorem visitsFrom_cons {file : Path} {files : List Path} {s s₁ : FileTree × σ} {o : FileOutcome}
    {spent : TokenUsage} (h : p.processFile c index file s = .ok (o, spent, s₁)) :
    p.visitsFrom c index (file :: files) s =
      ⟨file, s, p.callsOn c index file s, o, s₁⟩ :: p.visitsFrom c index files s₁ := by
  rw [visitsFrom, h]

/-- The report of a run lists the outcomes of its visits. -/
theorem processAll_visits : ∀ {files : List Path} {usage : TokenUsage} {s s' : FileTree × σ}
    {report : RunReport} {events : List Progress},
    p.processAll c index files usage s = .ok (report, events, s') →
      report.files = (p.visitsFrom c index files s).map (·.outcome)
  | [], usage, s, s', report, events, h => by
    simp only [processAll, Except.ok.injEq, Prod.mk.injEq] at h
    rw [← h.1]
    rfl
  | file :: files, usage, s, s', report, events, h => by
    obtain ⟨o, spent, s₁, usage', rest, events', hfile, hrest, hfiles, -⟩ := processAll_cons h
    rw [hfiles, visitsFrom_cons hfile, processAll_visits hrest, List.map_cons]

/-- The ways that a run can end. -/
inductive Running (p : Project) (c : Collaborators (FileTree × σ)) (only : Option Glob.Pattern)
    (s : FileTree × σ) : Except Stop (RunReport × List Progress × FileTree × σ) → Prop
  /-- There is no index. -/
  | unindexed {e : ConfigError} : p.index s.1 = .error e → Running p c only s (.error (.config e))
  /-- A sum of token counts does not fit. -/
  | overflowed {index : SymbolIndex} : p.index s.1 = .ok index →
      p.processAll c index (p.sources s.1 only) .zero s = .error .tokens →
      Running p c only s (.error .overflow)
  /-- All files were worked on. -/
  | reported {index : SymbolIndex} {report : RunReport} {events : List Progress}
      {s' : FileTree × σ} : p.index s.1 = .ok index →
      p.processAll c index (p.sources s.1 only) .zero s = .ok (report, events, s') →
      Running p c only s
        (.ok (report, .start "generate" (p.sources s.1 only).length :: events ++ [.finish], s'))

variable (p c) in
theorem run_running (only : Option Glob.Pattern) (s : FileTree × σ) :
    Running p c only s (p.run c only s) := by
  rw [run]
  cases hindex : p.index s.1 with
  | error e => exact .unindexed hindex
  | ok index =>
    dsimp only
    cases hall : p.processAll c index (p.sources s.1 only) .zero s with
    | error e =>
      cases e
      exact .overflowed hindex hall
    | ok result =>
      obtain ⟨report, events, s'⟩ := result
      exact .reported hindex hall

/-- A run with a report has worked on its files one after another. -/
theorem run_processAll {only : Option Glob.Pattern} {s s' : FileTree × σ} {report : RunReport}
    {events : List Progress} (h : p.run c only s = .ok (report, events, s')) :
    ∃ index files events', p.visits c only s = p.visitsFrom c index files s ∧
      p.processAll c index files .zero s = .ok (report, events', s') := by
  have hrunning := run_running p c only s
  rw [h] at hrunning
  cases hrunning with
  | reported hindex hall =>
    rw [visits, hindex]
    exact ⟨_, _, _, rfl, hall⟩

end Project

end Testsmith
