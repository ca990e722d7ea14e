/-
# A plan foretells the run

A plan reads the files of a project before anything is written; a run reads each of them when it
comes to it, after it has written the tests of those before. As the sources stay as they are
(`processFile_keepsSources`), both see the same facts, and what is planned for a file is what the run
does with it (`Foretells`).

Key definitions: `Foretells`, `PlanForetellsRun`.
Key theorems: `processFile_foretold`, `processAll_foretold`, `plan_foretells_run`.
-/
import Mathlib.Data.List.Forall2
import Testsmith.Plan
import Testsmith.Proofs.Run.Sums
import Testsmith.Proofs.Run.Writes

namespace Testsmith

open FileTree Repair

variable {σ : Type}

/-- What is planned for a file tells what comes of the visit to it, in a run from the tree. -/
structure Foretells (t : FileTree) (e : PlanEntry) (v : Visit σ) : Prop where
  file : e.file = v.outcome.file
  className : e.className = v.outcome.className
  /-- A file that can be read gets the strategy that was planned. -/
  strategy : ∀ source, t.readText v.file = .ok source → v.outcome.strategy = some e.strategy
  /-- It is skipped exactly when this was planned, and for the same reason. -/
  skipped : ∀ source, t.readText v.file = .ok source → ∀ reason,
    (v.outcome.status = .skipped reason ↔ e.strategy = .skip reason)
  /-- No place is planned for a test exactly when there is to be none. -/
  place : e.testPath = none ↔ ∃ reason, e.strategy = .skip reason
  /-- A file is skipped for a reason in words, with no call, and with nothing changed. -/
  untouched : ∀ reason, v.outcome.status = .skipped reason →
    reason.text ≠ "" ∧ v.calls = [] ∧ v.after = v.before
  /-- A test that is generated goes where it was planned. -/
  generated : ∀ path, v.outcome.status = .generated path → e.testPath = some path
  /-- A file that cannot be read fails for that, which the plan warns of. -/
  unreadable : ∀ error, t.readText v.file = .error error →
    v.outcome.status = .failed (.read error) ∧ e.warnings = [(Error.io error).message]

/-- The plan and the run of a project tell the same. -/
structure PlanForetellsRun (p : Project) (c : Collaborators (FileTree × σ))
    (only : Option Glob.Pattern) (s : FileTree × σ) : Prop where
  /-- Where there is no plan there is no run, for the same reason. -/
  fails : ∀ e, p.plan s.1 only = .error e ↔ p.run c only s = .error (.config e)
  /-- Where there is a plan the run gives a report, file by file as foretold. -/
  reports : ∀ plan, p.plan s.1 only = .ok plan → ∃ report events s',
    p.run c only s = .ok (report, events, s') ∧
      report.files = (p.visits c only s).map (·.outcome) ∧
      List.Forall₂ (Foretells s.1) plan.files (p.visits c only s)

theorem SkipReason.text_ne_empty (r : SkipReason) : r.text ≠ "" := by cases r <;> decide

theorem Strategy.isSkip_iff {s : Strategy} : s.isSkip = true ↔ ∃ reason, s = .skip reason := by
  cases s <;> simp [Strategy.isSkip]

namespace Project

variable {p : Project} {c : Collaborators (FileTree × σ)} {index : SymbolIndex}

theorem factsIn_of_read {t : FileTree} {file : Path} {source : String}
    (h : t.readText file = .ok source) : factsIn t file = Java.analyze source := by
  rw [factsIn, h]

theorem factsIn_of_unread {t : FileTree} {file : Path} {e : IoError}
    (h : t.readText file = .error e) : factsIn t file = { warnings := [(Error.io e).message] } := by
  rw [factsIn, h]

theorem planEntry_place (t : FileTree) (file : Path) : (p.planEntry t file).testPath = none ↔
    ∃ reason, (p.planEntry t file).strategy = .skip reason := by
  rw [← Strategy.isSkip_iff]
  simp only [planEntry]
  split <;> simp_all

/-- The place that is planned for a test is where the test of the file goes. -/
theorem planEntry_testPath {t : FileTree} {file path : Path} (h : p.testFor? t file = some path) :
    (p.planEntry t file).testPath = some path := by
  rw [testFor?] at h
  cases hread : t.readText file with
  | error e => rw [hread] at h; cases h
  | ok source =>
    simp only [hread] at h
    simp only [planEntry, factsIn_of_read hread]
    split at h
    · cases h
    · rename_i hskip
      rw [if_neg hskip]
      exact h

theorem conclude_ne_skipped (result : Except RepairError Artifact) (t : FileTree)
    (reason : SkipReason) : (conclude result t).1 ≠ .skipped reason := by
  unfold conclude
  cases result with
  | error e => simp
  | ok a =>
    dsimp only
    split <;> simp

/-- What is planned for a file that there is to be a test for. -/
theorem foretells_of_tested {t : FileTree} {file : Path} {source : String} {j : Job}
    (ht : Tested p index t file source j) {attempts : Nat} {status : FileStatus}
    (hskip : ∀ reason, status ≠ .skipped reason)
    (hgenerated : ∀ path, status = .generated path → p.testFor? t file = some path)
    {calls : List Call} {s s' : FileTree × σ} :
    Foretells t (p.planEntry t file) ⟨file, s, calls,
      p.outcomeOf file (some (classify (Java.analyze source))) attempts status, s'⟩ := by
  have hstrategy : (p.planEntry t file).strategy = classify (Java.analyze source) := by
    simp only [planEntry, factsIn_of_read ht.read]
  have hplanned (reason : SkipReason) : classify (Java.analyze source) ≠ .skip reason := by
    intro h
    have hno := ht.strategy
    rw [h] at hno
    cases hno
  exact
    { file := rfl
      className := rfl
      strategy := fun _ _ => by rw [hstrategy]; rfl
      skipped := fun _ _ reason => by
        rw [hstrategy]
        exact ⟨fun h => absurd h (hskip reason), fun h => absurd h (hplanned reason)⟩
      place := planEntry_place t file
      untouched := fun reason h => absurd h (hskip reason)
      generated := fun path h => planEntry_testPath (hgenerated path h)
      unreadable := fun e h => by simp [ht.read] at h }

-- This stays closed where the cases of `Processing` compare outcomes field by field.
attribute [local irreducible] display

/-- **The plan for a file tells what comes of the work on it**, if the file is read as it was. -/
theorem processFile_foretold {t : FileTree} {file : Path} {s s' : FileTree × σ} {o : FileOutcome}
    {spent : TokenUsage} (hread : s.1.readText file = t.readText file)
    (h : p.processFile c index file s = .ok (o, spent, s')) :
    Foretells t (p.planEntry t file) ⟨file, s, p.callsOn c index file s, o, s'⟩ := by
  have hgenerated (path : Path) (hpath : o.status = .generated path) :
      p.testFor? t file = some path := by
    rw [← testFor?_congr hread, testFor?_of_generated h hpath]
  have hcases := processFile_processing p c index file s
  rw [h] at hcases
  generalize p.callsOn c index file s = calls at hcases ⊢
  cases hcases with
  | @unread e hunread =>
    rw [hread] at hunread
    exact
      { file := rfl
        className := rfl
        strategy := fun source hr => by simp [hunread] at hr
        skipped := fun source hr => by simp [hunread] at hr
        place := planEntry_place t file
        untouched := fun reason hr => by cases hr
        generated := fun path hr => by cases hr
        unreadable := fun e' he => by
          obtain rfl : e = e' := by simpa [hunread] using he
          exact ⟨rfl, by simp only [planEntry, factsIn_of_unread hunread]⟩ }
  | @skipped source reason hr hclass =>
    rw [hread] at hr
    have hstrategy : (p.planEntry t file).strategy = .skip reason := by
      simp only [planEntry, factsIn_of_read hr, hclass]
    exact
      { file := rfl
        className := rfl
        strategy := fun _ _ => by rw [hstrategy]; rfl
        skipped := fun _ _ reason' => by
          rw [hstrategy, Strategy.skip.injEq]
          exact ⟨FileStatus.skipped.inj, congrArg _⟩
        place := planEntry_place t file
        untouched := fun reason' _ => ⟨reason'.text_ne_empty, rfl, rfl⟩
        generated := fun path hr => by cases hr
        unreadable := fun e he => by simp [hr] at he }
  | unbuilt ht _ =>
    exact foretells_of_tested ⟨hread.symm.trans ht.read, ht.strategy, ht.job⟩
      (fun reason h => by cases h) hgenerated
  | ended ht _ =>
    exact foretells_of_tested ⟨hread.symm.trans ht.read, ht.strategy, ht.job⟩
      (conclude_ne_skipped _ _) hgenerated

/-- The plan from before some files are worked on tells what comes of it for all of them. -/
theorem processAll_foretold (hc : LeavesTree c) {t : FileTree} {files : List Path}
    (hfiles : ∀ g ∈ files, t.hasFile g = true) (htests : NoTestOver p t files) :
    ∀ {rest : List Path} {used : TokenUsage} {s s' : FileTree × σ} {report : RunReport}
      {events : List Progress}, rest ⊆ files → KeepsSources t s.1 files →
      p.processAll c index rest used s = .ok (report, events, s') →
        List.Forall₂ (Foretells t) (rest.map (p.planEntry t)) (p.visitsFrom c index rest s)
  | [], _, _, _, _, _, _, _, _ => .nil
  | file :: rest, used, s, s', report, events, hsub, hs, h => by
    obtain ⟨hfile, hrest⟩ := List.cons_subset.mp hsub
    obtain ⟨o, spent, s₁, used', report', events', hone, hmore, -⟩ := processAll_cons h
    have hread : s.1.readText file = t.readText file := hs.readText hfile (hfiles file hfile)
    have hs₁ := processFile_keepsSources hc hfiles htests hfile hs hone
    rw [visitsFrom_cons hone, List.map_cons]
    exact .cons (processFile_foretold hread hone)
      (processAll_foretold hc hfiles htests hrest hs₁ hmore)

/-- **A plan foretells the run.** -/
theorem plan_foretells_run (p : Project) (hc : LeavesTree c) {only : Option Glob.Pattern}
    {s : FileTree × σ} (hfits : SumsFit 0 (p.work c only s))
    (htests : NoTestOver p s.1 (p.sources s.1 only)) : PlanForetellsRun p c only s := by
  cases hindex : p.index s.1 with
  | error e =>
    have hplan : p.plan s.1 only = .error e := by rw [plan, hindex]; rfl
    have hrun : p.run c only s = .error (.config e) := by rw [run, hindex]
    refine ⟨fun e' => ?_, fun report hreport => ?_⟩
    · rw [hplan, hrun]
      simp
    · rw [hplan] at hreport
      cases hreport
  | ok index =>
    have hplan : p.plan s.1 only =
        .ok ⟨index.size, index.collisions, (p.sources s.1 only).map (p.planEntry s.1)⟩ := by
      rw [plan, hindex]
      rfl
    obtain ⟨report, events, events', s', hrun, hall, hvisits⟩ := run_of_sumsFit hindex hfits
    refine ⟨fun e => ?_, fun planned hplanned => ?_⟩
    · rw [hplan, hrun]
      simp
    · rw [hplan, Except.ok.injEq] at hplanned
      rw [← hplanned]
      refine ⟨report, events, s', hrun, ?_, ?_⟩
      · rw [hvisits, processAll_visits hall]
      · rw [hvisits]
        exact processAll_foretold hc (fun g hg => hasFile_of_mem_sources hg) htests
          (List.Subset.refl _) (.refl _ _) hall

end Project

/-- A project with a file to be tested and one that is not. -/
def shopProject : Project :=
  ⟨⟨"/shop"⟩, { project :=
    { sourceRoot := ⟨"src"⟩, testRoot := ⟨"test"⟩, includePatterns := ["Cart.java", "Web.java"],
      excludePatterns := [] } }⟩

def shopTree : FileTree :=
  ⟨[(["shop"], .directory), (["shop", "src"], .directory),
    (["shop", "src", "Cart.java"], .file "class Cart \x7b\x7d".toUTF8),
    (["shop", "src", "Web.java"], .file "@Controller class Web \x7b\x7d".toUTF8)]⟩

theorem allSources_shopProject :
    shopProject.allSources shopTree = [⟨"/shop/src/Cart.java"⟩, ⟨"/shop/src/Web.java"⟩] :=
  discover_of_ordered (by decide +kernel) (by decide +kernel)

theorem leavesTree_cart : LeavesTree cartCollaborators :=
  ⟨fun _ _ _ => rfl, fun _ _ _ => rfl⟩

theorem checks_shop : (shopProject.index shopTree).toOption.isSome = true ∧
    SumsFit 0 (shopProject.work cartCollaborators none (shopTree, ())) ∧
    NoTestOver shopProject shopTree (shopProject.sources shopTree none) := by
  unfold Project.work Project.index Project.sources
  simp only [allSources_shopProject]
  decide +kernel

/-- One file gets its test where it was planned, the other one is skipped as planned. -/
theorem plan_foretells_run_shop :
    let s := (shopTree, ())
    LeavesTree cartCollaborators ∧ SumsFit 0 (shopProject.work cartCollaborators none s) ∧
      NoTestOver shopProject shopTree (shopProject.sources shopTree none) ∧
      PlanForetellsRun shopProject cartCollaborators none s := by
  obtain ⟨-, hfits, hsources⟩ := checks_shop
  exact ⟨leavesTree_cart, hfits, hsources,
    Project.plan_foretells_run shopProject leavesTree_cart hfits hsources⟩

end Testsmith
