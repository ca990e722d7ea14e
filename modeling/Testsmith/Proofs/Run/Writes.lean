/-
# A run writes verified tests and nothing else

What a run leaves of its visits (`WritesVerifiedTests`): a file that differs from before the run is
where the test of some visit goes; where tests go there is the one that the verifier approved in the
last visit whose test goes there; and a visit without a test changes no file. Two paths of tests may
be written differently and lead to the same file, so visits are compared by where their tests are.

The invariant is carried from file to file (`processAll_leaves`): a file that was written stays
until a later visit writes to its location, as all else that happens is that directories are added,
and paths go on leading where they led.

Key definitions: `Visit.LeadsTo`, `LastVerified`, `WritesVerifiedTests`, `Leaves`.
Key theorems: `processAll_leaves`, `run_writesVerifiedTests`.
-/
import Testsmith.Proofs.Run.Sources

namespace Testsmith

open FileTree Repair

variable {σ : Type}

/-- The visit generated a test, and its path leads to the location. -/
def Visit.LeadsTo (v : Visit σ) (t : FileTree) (l : Location) : Prop :=
  ∃ path, v.outcome.status = .generated path ∧ t.locate path = .ok l

/-- At the location is the test that the verifier approved in the last of the visits whose test goes
there. -/
def LastVerified (vs : List (Visit σ)) (t : FileTree) (l : Location) : Prop :=
  ∃ earlier last later a, vs = earlier ++ last :: later ∧
    last.outcome.status = .generated a.path ∧ t.locate a.path = .ok l ∧
    (∀ v ∈ later, ¬v.LeadsTo t l) ∧
    approved last.calls = [a] ∧ t.node? l = some (.file a.render.toUTF8)

/-- What visits that lead from one tree to another write. -/
structure WritesVerifiedTests (vs : List (Visit σ)) (t t' : FileTree) : Prop where
  /-- A file that is new, changed or gone is where the test of a visit goes. -/
  changed : ∀ l, t'.fileAt l ≠ t.fileAt l → ∃ v ∈ vs, v.LeadsTo t' l
  /-- Every path of a test leads to the test that was approved in the last visit for that place. -/
  verified : ∀ v ∈ vs, ∀ path, v.outcome.status = .generated path →
    ∃ l, t'.locate path = .ok l ∧ LastVerified vs t' l
  /-- A visit that was skipped or has failed changes no file. -/
  others : ∀ v ∈ vs, (∀ path, v.outcome.status ≠ .generated path) →
    ∀ l, v.after.1.fileAt l = v.before.1.fileAt l

/-- What is carried along a run, from the tree before some visits to the one after them. -/
structure Leaves (vs : List (Visit σ)) (t t' : FileTree) : Prop where
  keeps : KeepsDirs t t'
  changes : ∀ l, AddsAt t t' l ∨ ∃ v ∈ vs, v.LeadsTo t' l
  leads : ∀ v ∈ vs, ∀ path, v.outcome.status = .generated path → ∃ l, t'.locate path = .ok l
  last : ∀ l, (∃ v ∈ vs, v.LeadsTo t' l) → LastVerified vs t' l
  others : ∀ v ∈ vs, (∀ path, v.outcome.status ≠ .generated path) →
    ∀ l, v.after.1.fileAt l = v.before.1.fileAt l

theorem Leaves.nil (t : FileTree) : Leaves ([] : List (Visit σ)) t t where
  keeps := fun _ hl => hl
  changes := fun _ => Or.inl (Or.inl rfl)
  leads := by simp
  last := by simp
  others := by simp

theorem LastVerified.cons {v : Visit σ} {vs : List (Visit σ)} {t : FileTree} {l : Location}
    (h : LastVerified vs t l) : LastVerified (v :: vs) t l := by
  obtain ⟨earlier, last, later, a, rfl, h⟩ := h
  exact ⟨v :: earlier, last, later, a, rfl, h⟩

/-- A visit without a test, before others. -/
theorem Leaves.cons_adds {v : Visit σ} {vs : List (Visit σ)} {t' : FileTree}
    (hv : ∀ path, v.outcome.status ≠ .generated path) (hadds : Adds v.before.1 v.after.1)
    (h : Leaves vs v.after.1 t') : Leaves (v :: vs) v.before.1 t' where
  keeps := hadds.keepsDirs.trans h.keeps
  changes := by
    intro l
    rcases h.changes l with hl | ⟨w, hw, hl⟩
    · exact Or.inl ((hadds l).trans hl)
    · exact Or.inr ⟨w, List.mem_cons_of_mem _ hw, hl⟩
  leads := by
    intro w hw path hpath
    rcases List.mem_cons.mp hw with rfl | hw
    · exact absurd hpath (hv path)
    · exact h.leads w hw path hpath
  last := by
    rintro l ⟨w, hw, hl⟩
    rcases List.mem_cons.mp hw with rfl | hw
    · obtain ⟨path, hpath, -⟩ := hl
      exact absurd hpath (hv path)
    · exact (h.last l ⟨w, hw, hl⟩).cons
  others := by
    intro w hw hnone l
    rcases List.mem_cons.mp hw with rfl | hw
    · exact (hadds l).fileAt
    · exact h.others w hw hnone l

/-- A visit that writes its test, before others. -/
theorem Leaves.cons_wrote {v : Visit σ} {vs : List (Visit σ)} {t' : FileTree} {a : Artifact}
    {l₀ : Location} (hv : v.outcome.status = .generated a.path) (ha : approved v.calls = [a])
    (hwrote : Wrote v.before.1 v.after.1 a.path a.render.toUTF8 l₀) (h : Leaves vs v.after.1 t') :
    Leaves (v :: vs) v.before.1 t' := by
  -- directories stay directories, so that the path leads to the same place at the end
  have hleads : t'.locate a.path = .ok l₀ := locate_of_keeps hwrote.leads h.keeps hwrote.plain
  refine ⟨hwrote.keeps.trans h.keeps, fun l => ?_, fun w hw path hpath => ?_, ?_,
    fun w hw hnone l => ?_⟩
  · rcases h.changes l with hl | ⟨w, hw, hl⟩
    · by_cases hl₀ : l = l₀
      · exact Or.inr ⟨v, List.mem_cons_self, a.path, hv, by rw [hl₀, hleads]⟩
      · exact Or.inl ((hwrote.others l hl₀).trans hl)
    · exact Or.inr ⟨w, List.mem_cons_of_mem _ hw, hl⟩
  · rcases List.mem_cons.mp hw with rfl | hw
    · rw [hv, FileStatus.generated.injEq] at hpath
      exact ⟨l₀, by rw [← hpath, hleads]⟩
    · exact h.leads w hw path hpath
  · rintro l ⟨w, hw, hl⟩
    by_cases hlater : ∃ w ∈ vs, w.LeadsTo t' l
    · exact (h.last l hlater).cons
    · -- no later visit goes there, so that the file of this one is still there
      have hhead : w = v := by
        rcases List.mem_cons.mp hw with hw | hw
        · exact hw
        · exact absurd ⟨w, hw, hl⟩ hlater
      obtain ⟨path, hpath, hl⟩ := hl
      rw [hhead, hv, FileStatus.generated.injEq] at hpath
      rw [← hpath, hleads, Except.ok.injEq] at hl
      subst hl
      have hfile : t'.node? l₀ = some (.file a.render.toUTF8) := by
        rcases h.changes l₀ with hsame | hled
        · rcases hsame with hsame | ⟨hnone, -⟩
          · rw [hsame, hwrote.file]
          · rw [hwrote.file] at hnone
            cases hnone
        · exact absurd hled hlater
      exact ⟨[], v, vs, a, rfl, hv, hleads, fun w hw hl => hlater ⟨w, hw, hl⟩, ha, hfile⟩
  · rcases List.mem_cons.mp hw with rfl | hw
    · exact absurd hv (hnone a.path)
    · exact h.others w hw hnone l

/-- One more visit, before others. -/
theorem Leaves.cons {file : Path} {s s₁ : FileTree × σ} {calls : List Call} {o : FileOutcome}
    {vs : List (Visit σ)} {t' : FileTree} (hv : Effect calls s.1 s₁.1 o.status)
    (h : Leaves vs s₁.1 t') : Leaves (⟨file, s, calls, o, s₁⟩ :: vs) s.1 t' := by
  cases hstatus : o.status with
  | generated path =>
    rw [hstatus] at hv
    obtain ⟨a, l, ha, rfl, hwrote⟩ := hv
    exact Leaves.cons_wrote hstatus ha hwrote h
  | skipped reason =>
    rw [hstatus] at hv
    exact Leaves.cons_adds (by simp [hstatus]) hv h
  | failed failure =>
    rw [hstatus] at hv
    exact Leaves.cons_adds (by simp [hstatus]) hv h

namespace Project

variable {p : Project} {c : Collaborators (FileTree × σ)}

/-- What is carried along a run holds of the work on any files. -/
theorem processAll_leaves (hc : LeavesTree c) {index : SymbolIndex} : ∀ {files : List Path}
    {usage : TokenUsage} {s s' : FileTree × σ} {report : RunReport} {events : List Progress},
    p.processAll c index files usage s = .ok (report, events, s') →
      Leaves (p.visitsFrom c index files s) s.1 s'.1
  | [], usage, s, s', report, events, h => by
    simp only [processAll, Except.ok.injEq, Prod.mk.injEq] at h
    rw [← h.2.2]
    exact .nil s.1
  | file :: files, usage, s, s', report, events, h => by
    obtain ⟨o, spent, s₁, usage', rest, events', hfile, hrest, -⟩ := processAll_cons h
    rw [visitsFrom_cons hfile]
    exact Leaves.cons (processFile_effect hc hfile) (processAll_leaves hc hrest)

/-- **A run writes verified tests and nothing else.** -/
theorem run_writesVerifiedTests (p : Project) (hc : LeavesTree c) {only : Option Glob.Pattern}
    {s s' : FileTree × σ} {report : RunReport} {events : List Progress}
    (h : p.run c only s = .ok (report, events, s')) :
    report.files = (p.visits c only s).map (·.outcome) ∧
      WritesVerifiedTests (p.visits c only s) s.1 s'.1 := by
  obtain ⟨index, files, events', hvisits, hall⟩ := run_processAll h
  rw [hvisits]
  have hleaves := processAll_leaves hc hall
  refine ⟨processAll_visits hall, fun l hl => ?_, fun v hv path hpath => ?_, hleaves.others⟩
  · rcases hleaves.changes l with hadds | hled
    · exact absurd hadds.fileAt hl
    · exact hled
  · obtain ⟨l, hl⟩ := hleaves.leads v hv path hpath
    exact ⟨l, hl, hleaves.last l ⟨v, hv, path, hpath, hl⟩⟩

end Project

/-- A project with one source file. -/
def cartProject : Project :=
  ⟨⟨"/shop"⟩, { project :=
    { sourceRoot := ⟨"src"⟩, testRoot := ⟨"test"⟩, includePatterns := ["Cart.java"],
      excludePatterns := [] } }⟩

def cartTree : FileTree :=
  ⟨[(["shop"], .directory), (["shop", "src"], .directory),
    (["shop", "src", "Cart.java"], .file "class Cart \x7b void add() \x7b\x7d \x7d".toUTF8)]⟩

/-- A provider that always writes the same test, and a verifier that approves it. -/
def cartCollaborators : Collaborators (FileTree × Unit) where
  generate _ s := (.ok ⟨"class CartTest \x7b\x7d", ⟨1, 1⟩⟩, s)
  verify _ s := (.ok ⟨true, ""⟩, s)

theorem allSources_cartProject :
    cartProject.allSources cartTree = [⟨"/shop/src/Cart.java"⟩] :=
  discover_of_ordered (by decide +kernel) (List.pairwise_singleton _ _)

/-- A run that generates a test, verifies and writes it. -/
theorem run_writesVerifiedTests_cart :
    ∃ report events s',
      cartProject.run cartCollaborators none (cartTree, ()) = .ok (report, events, s') ∧
        report.generated = 1 ∧
        report.files = (cartProject.visits cartCollaborators none (cartTree, ())).map (·.outcome) ∧
        WritesVerifiedTests (cartProject.visits cartCollaborators none (cartTree, ())) cartTree
          s'.1 := by
  have hc : LeavesTree cartCollaborators := ⟨fun _ _ _ => rfl, fun _ _ _ => rfl⟩
  have hgenerated : (match cartProject.run cartCollaborators none (cartTree, ()) with
      | .ok (report, _) => report.generated
      | .error _ => 0) = 1 := by
    rw [Project.run, Project.index, Project.sources]
    simp only [allSources_cartProject]
    decide +kernel
  cases hrun : cartProject.run cartCollaborators none (cartTree, ()) with
  | error e =>
    rw [hrun] at hgenerated
    cases hgenerated
  | ok result =>
    obtain ⟨report, events, s'⟩ := result
    rw [hrun] at hgenerated
    exact ⟨report, events, s', rfl, hgenerated, Project.run_writesVerifiedTests cartProject hc hrun⟩

end Testsmith
