/-
# The sources stay as they are

A run writes tests while it goes from file to file. As long as no test goes where one of the files is
(`NoTestOver`), every one of them is read as before the run (`KeepsSources`), as all else that
happens is that directories are added.

Key definitions: `Project.testFor?`, `NoTestOver`, `KeepsSources`.
Key theorems: `hasFile_of_mem_sources`, `KeepsSources.readText`, `processFile_keepsSources`.
-/
import Testsmith.Proofs.Files.Discovery
import Testsmith.Proofs.Files.Spelled
import Testsmith.Proofs.Run.Visits

namespace Testsmith

open FileTree Repair

variable {σ : Type}

namespace Project

theorem mem_allSources {p : Project} {t : FileTree} {only : Option Glob.Pattern} {f : Path}
    (h : f ∈ p.sources t only) : f ∈ p.allSources t := by
  cases only with
  | none => exact h
  | some pattern => exact (List.mem_filter.mp h).1

/-- The sources of a project are files. -/
theorem hasFile_of_mem_sources {p : Project} {t : FileTree} {only : Option Glob.Pattern} {f : Path}
    (h : f ∈ p.sources t only) : t.hasFile f = true :=
  hasFile_of_mem_discover (mem_allSources h)

/-- Where the test of a file goes, if the file can be read and there is to be one. -/
def testFor? (p : Project) (t : FileTree) (file : Path) : Option Path :=
  match t.readText file with
  | .error _ => none
  | .ok source =>
    if (classify (Java.analyze source)).isSkip then none
    else some (p.testPath file (Java.analyze source))

theorem testFor?_congr {p : Project} {t u : FileTree} {file : Path}
    (h : u.readText file = t.readText file) : p.testFor? u file = p.testFor? t file := by
  rw [testFor?, h, testFor?]

end Project

/-- No test goes where one of the files is. Paths are compared by where they lead once the
directories on their way are there. -/
def NoTestOver (p : Project) (t : FileTree) (files : List Path) : Prop :=
  ∀ f ∈ files, ∀ path ∈ p.testFor? t f, ∀ g ∈ files, spelled path ≠ spelled g

instance (p : Project) (t : FileTree) (files : List Path) : Decidable (NoTestOver p t files) :=
  inferInstanceAs (Decidable (∀ f ∈ files, ∀ path ∈ p.testFor? t f, ∀ g ∈ files, _ ≠ _))

/-- The files are where and what they were. -/
structure KeepsSources (t u : FileTree) (files : List Path) : Prop where
  dirs : KeepsDirs t u
  files : ∀ g ∈ files, u.node? (spelled g) = t.node? (spelled g)

theorem KeepsSources.refl (t : FileTree) (files : List Path) : KeepsSources t t files :=
  ⟨fun _ h => h, fun _ _ => rfl⟩

theorem KeepsSources.readText {t u : FileTree} {files : List Path} (h : KeepsSources t u files)
    {g : Path} (hg : g ∈ files) (hfile : t.hasFile g = true) : u.readText g = t.readText g :=
  readText_of_keeps hfile h.dirs (h.files g hg)

namespace Project

variable {p : Project} {c : Collaborators (FileTree × σ)} {index : SymbolIndex}

/-- A test that is taken up is the one that the run ended with. -/
theorem conclude_generated {result : Except RepairError Artifact} {t : FileTree} {path : Path}
    (h : (conclude result t).1 = .generated path) : ∃ a, result = .ok a ∧ a.path = path := by
  cases result with
  | error e => cases h
  | ok a =>
    refine ⟨a, rfl, ?_⟩
    rw [conclude] at h
    split at h
    · cases h
    · exact FileStatus.generated.inj h

/-- The test that a repair run ends with goes where the test of the file goes. -/
theorem testFor?_of_outcome {t : FileTree} {file : Path} {source : String} {j : Job}
    (ht : Tested p index t file source j) {s s' : FileTree × σ} {o : Outcome}
    (hrun : outcome c j s = (.ok o, s')) {a : Artifact} (ha : o.result = .ok a) :
    p.testFor? t file = some a.path := by
  rw [path_of_outcome hrun ha, ← ht.job, testFor?, ht.read]
  simp only [ht.strategy]
  rfl

-- This stays closed where the cases of `Processing` compare outcomes field by field.
attribute [local irreducible] display

/-- A test that is generated goes where the test of the file goes. -/
theorem testFor?_of_generated {file path : Path} {s s' : FileTree × σ} {o : FileOutcome}
    {spent : TokenUsage} (h : p.processFile c index file s = .ok (o, spent, s'))
    (hpath : o.status = .generated path) : p.testFor? s.1 file = some path := by
  have hcases := processFile_processing p c index file s
  rw [h] at hcases
  generalize p.callsOn c index file s = calls at hcases
  cases hcases with
  | unread _ => cases hpath
  | skipped _ _ => cases hpath
  | unbuilt _ _ => cases hpath
  | ended htested hrun =>
    obtain ⟨a, ha, rfl⟩ := conclude_generated hpath
    exact testFor?_of_outcome htested hrun ha

/-- **The work on a file leaves all files as they are.** -/
theorem processFile_keepsSources (hc : LeavesTree c) {t : FileTree} {files : List Path}
    (hfiles : ∀ g ∈ files, t.hasFile g = true) (htests : NoTestOver p t files) {file : Path}
    (hfile : file ∈ files) {s s' : FileTree × σ} {o : FileOutcome} {spent : TokenUsage}
    (hs : KeepsSources t s.1 files) (h : p.processFile c index file s = .ok (o, spent, s')) :
    KeepsSources t s'.1 files := by
  have hthere (g : Path) (hg : g ∈ files) :
      ∃ content, s.1.node? (spelled g) = some (.file content) := by
    obtain ⟨content, -, hn⟩ := hasFile_iff.mp (hfiles g hg)
    exact ⟨content, (hs.files g hg).trans hn⟩
  have kept (hdirs : KeepsDirs s.1 s'.1)
      (hadds : ∀ g ∈ files, AddsAt s.1 s'.1 (spelled g)) : KeepsSources t s'.1 files := by
    refine ⟨hs.dirs.trans hdirs, fun g hg => ?_⟩
    obtain ⟨content, hn⟩ := hthere g hg
    rw [(hadds g hg).of_file hn, hs.files g hg]
  have heffect := processFile_effect hc h
  cases hstatus : o.status with
  | generated path =>
    rw [hstatus] at heffect
    obtain ⟨a, l, -, -, hwrote⟩ := heffect
    have hpath : p.testFor? t file = some path := by
      rw [← testFor?_of_generated h hstatus,
        testFor?_congr (hs.readText hfile (hfiles file hfile))]
    obtain rfl := locate_spelled hwrote.leads
    exact kept hwrote.keeps fun g hg =>
      hwrote.others _ (htests file hfile path hpath g hg).symm
  | skipped reason =>
    rw [hstatus] at heffect
    exact kept heffect.keepsDirs fun g _ => heffect (spelled g)
  | failed failure =>
    rw [hstatus] at heffect
    exact kept heffect.keepsDirs fun g _ => heffect (spelled g)

end Project

end Testsmith
