/-
# Sources that a run overwrites

Nothing keeps the test root of a project away from its source root, and the suffix of test classes
may be empty, so that a test can go where a source is. At every moment of a run, a source holds what
it held before or the test that was approved in the last visit that leads to its place. No source
changes when no test is to go where one is (`NoTestOver`); this is so whenever the suffix has no
slash, no part of a package is a path from the top, and no source is below the test root.

The moments of a run are the ends of its visits (`treeAfter`): a run that overflows has moments, but
no report.

Key definitions: `treeAfter`, `SparesSources`.
Key theorems: `visitsFrom_leaves`, `visitsFrom_keepsSources`, `run_sparesSources`.
-/
import Testsmith.Proofs.Run.Isolation

namespace Testsmith

open FileTree Repair

variable {σ : Type}

/-- The tree that visits lead to. -/
def treeAfter : FileTree → List (Visit σ) → FileTree
  | t, [] => t
  | _, v :: vs => treeAfter v.after.1 vs

/-- What a run does to the sources of its project. -/
structure SparesSources (p : Project) (c : Collaborators (FileTree × σ))
    (only : Option Glob.Pattern) (s : FileTree × σ) : Prop where
  /-- A run with a report ends with the tree that its visits lead to. -/
  ends : ∀ report events s', p.run c only s = .ok (report, events, s') →
    s'.1 = treeAfter s.1 (p.visits c only s)
  /-- At every moment a source has the bytes that it had, or those of the test that was approved in
  the last visit which leads there. -/
  holds : ∀ done, done <+: p.visits c only s → ∀ g ∈ p.allSources s.1,
    (treeAfter s.1 done).read g = s.1.read g ∨
      LastVerified done (treeAfter s.1 done) (spelled g)
  /-- If no test is to go where a source is, all sources have the bytes that they had. -/
  keeps : NoTestOver p s.1 (p.allSources s.1) → ∀ done, done <+: p.visits c only s →
    ∀ g ∈ p.allSources s.1, (treeAfter s.1 done).read g = s.1.read g
  /-- No test is to go where a source is if no source is below the test root, and tests are. -/
  apart : '/' ∉ p.config.project.testSuffix.toList →
    RelativePackages s.1 (p.allSources s.1) →
    (∀ g ∈ p.allSources s.1, ¬spelled p.testRoot <+: spelled g) →
    NoTestOver p s.1 (p.allSources s.1)

/-- A file that has not changed is read as before. -/
theorem FileTree.read_of_keeps {t u : FileTree} {g : Path} (hg : t.hasFile g = true)
    (hk : KeepsDirs t u) (hu : u.node? (spelled g) = t.node? (spelled g)) :
    u.read g = t.read g := by
  obtain ⟨content, hl, hn⟩ := hasFile_iff.mp hg
  have hl' : u.locate g = .ok (spelled g) := locate_of_keeps hl hk ((locate_ok hl).2 content hn)
  rw [read_of_locate hl hn, read_of_locate hl' (hu.trans hn)]

theorem Leaves.read_or {vs : List (Visit σ)} {t u : FileTree} (h : Leaves vs t u) {g : Path}
    (hg : t.hasFile g = true) : u.read g = t.read g ∨ LastVerified vs u (spelled g) := by
  rcases h.changes (spelled g) with hadds | hled
  · obtain ⟨content, -, hn⟩ := hasFile_iff.mp hg
    exact Or.inl (FileTree.read_of_keeps hg h.keeps (hadds.of_file hn))
  · exact Or.inr (h.last _ hled)

namespace Project

variable {p : Project} {c : Collaborators (FileTree × σ)} {index : SymbolIndex}

/-- A list of visits that come first in a run, by the first file. -/
theorem prefix_visitsFrom_cons {file : Path} {files : List Path} {s : FileTree × σ}
    {done : List (Visit σ)} (h : done <+: p.visitsFrom c index (file :: files) s) :
    done = [] ∨ ∃ o spent s₁ rest, p.processFile c index file s = .ok (o, spent, s₁) ∧
      done = ⟨file, s, p.callsOn c index file s, o, s₁⟩ :: rest ∧
      rest <+: p.visitsFrom c index files s₁ := by
  cases hfile : p.processFile c index file s with
  | error e =>
    rw [visitsFrom, hfile] at h
    exact Or.inl (List.prefix_nil.mp h)
  | ok processed =>
    obtain ⟨o, spent, s₁⟩ := processed
    rw [visitsFrom_cons hfile, List.prefix_cons_iff] at h
    refine h.imp_right ?_
    rintro ⟨rest, rfl, hrest⟩
    exact ⟨o, spent, s₁, rest, rfl, rfl, hrest⟩

/-- What is carried along a run holds at each of its moments, also when it gives no report. -/
theorem visitsFrom_leaves (hc : LeavesTree c) : ∀ {files : List Path} {s : FileTree × σ}
    {done : List (Visit σ)}, done <+: p.visitsFrom c index files s →
      Leaves done s.1 (treeAfter s.1 done)
  | [], s, done, h => by
    obtain rfl := List.prefix_nil.mp h
    exact .nil s.1
  | file :: files, s, done, h => by
    rcases prefix_visitsFrom_cons h with rfl | ⟨o, spent, s₁, rest, hfile, rfl, hrest⟩
    · exact .nil s.1
    · exact Leaves.cons (processFile_effect hc hfile) (visitsFrom_leaves hc hrest)

/-- The sources stay as they are, moment by moment. -/
theorem visitsFrom_keepsSources (hc : LeavesTree c) {t : FileTree} {files : List Path}
    (hfiles : ∀ g ∈ files, t.hasFile g = true) (htests : NoTestOver p t files) :
    ∀ {rest : List Path} {s : FileTree × σ} {done : List (Visit σ)}, rest ⊆ files →
      KeepsSources t s.1 files → done <+: p.visitsFrom c index rest s →
        KeepsSources t (treeAfter s.1 done) files
  | [], s, done, _, hs, h => by
    obtain rfl := List.prefix_nil.mp h
    exact hs
  | file :: rest, s, done, hsub, hs, h => by
    obtain ⟨hfile, hrest⟩ := List.cons_subset.mp hsub
    rcases prefix_visitsFrom_cons h with rfl | ⟨o, spent, s₁, later, hone, rfl, hlater⟩
    · exact hs
    · have hs₁ := processFile_keepsSources hc hfiles htests hfile hs hone
      exact visitsFrom_keepsSources (s := s₁) hc hfiles htests hrest hs₁ hlater

/-- The work on all files ends where their visits lead. -/
theorem processAll_treeAfter : ∀ {files : List Path} {usage : TokenUsage} {s s' : FileTree × σ}
    {report : RunReport} {events : List Progress},
    p.processAll c index files usage s = .ok (report, events, s') →
      s'.1 = treeAfter s.1 (p.visitsFrom c index files s)
  | [], usage, s, s', report, events, h => by
    simp only [processAll, Except.ok.injEq, Prod.mk.injEq] at h
    rw [← h.2.2]
    rfl
  | file :: files, usage, s, s', report, events, h => by
    obtain ⟨o, spent, s₁, usage', rest, events', hfile, hrest, -⟩ := processAll_cons h
    rw [visitsFrom_cons hfile]
    exact processAll_treeAfter hrest

/-- The visits of a run are those of its files, if there is an index. -/
theorem prefix_visits {only : Option Glob.Pattern} {s : FileTree × σ} {done : List (Visit σ)}
    (h : done <+: p.visits c only s) :
    done = [] ∨ ∃ index, done <+: p.visitsFrom c index (p.sources s.1 only) s := by
  rw [visits] at h
  split at h
  · exact Or.inl (List.prefix_nil.mp h)
  · exact Or.inr ⟨_, h⟩

/-- Tests that go below the test root go over no source outside of it. -/
theorem noTestOver_of_outside {t : FileTree} {files : List Path}
    (hsuffix : '/' ∉ p.config.project.testSuffix.toList) (hpackages : RelativePackages t files)
    (houtside : ∀ g ∈ files, ¬spelled p.testRoot <+: spelled g) : NoTestOver p t files := by
  intro f hf path hpath g hg heq
  obtain ⟨source, hread, hskip, rfl⟩ := testFor?_eq_some hpath
  have hsource : source ∈ (t.readText f).toOption := by
    rw [hread]
    rfl
  obtain ⟨q, dirs, name, hplace⟩ :=
    exists_testPlace hsuffix f (hpackages f hf source hsource hskip)
  refine houtside g hg ?_
  rw [← heq, hplace.spelled_eq]
  exact List.prefix_append _ _

/-- **A run changes a source only by a test that goes there.** -/
theorem run_sparesSources (p : Project) (hc : LeavesTree c) (only : Option Glob.Pattern)
    (s : FileTree × σ) : SparesSources p c only s where
  ends := by
    intro report events s' h
    obtain ⟨index, files, events', hvisits, hall⟩ := run_processAll h
    rw [hvisits]
    exact processAll_treeAfter hall
  holds := by
    intro done hdone g hg
    have hfile := hasFile_of_mem_discover hg
    rcases prefix_visits hdone with rfl | ⟨index, hfrom⟩
    · exact Or.inl rfl
    · exact (visitsFrom_leaves hc hfrom).read_or hfile
  keeps := by
    intro htests done hdone g hg
    have hfiles : ∀ f ∈ p.allSources s.1, s.1.hasFile f = true :=
      fun f hf => hasFile_of_mem_discover hf
    rcases prefix_visits hdone with rfl | ⟨index, hfrom⟩
    · rfl
    · have hkept := visitsFrom_keepsSources hc hfiles htests (fun f hf => mem_allSources hf)
        (.refl s.1 _) hfrom
      exact read_of_keeps (hfiles g hg) hkept.dirs (hkept.files g hg)
  apart := noTestOver_of_outside

end Project

/-- Two files, one of them to be tested, and their tests in a directory of their own. -/
theorem run_sparesSources_shop :
    LeavesTree cartCollaborators ∧
      NoTestOver shopProject shopTree (shopProject.allSources shopTree) ∧
      SparesSources shopProject cartCollaborators none (shopTree, ()) :=
  ⟨leavesTree_cart, checks_shop.2.2,
    Project.run_sparesSources shopProject leavesTree_cart none (shopTree, ())⟩

/-- Tests go where the sources are, under the same names. -/
def mergedProject : Project :=
  ⟨⟨"/shop"⟩, { project :=
    { sourceRoot := ⟨"src"⟩, testRoot := ⟨"src"⟩, testSuffix := "",
      includePatterns := ["Cart.java"], excludePatterns := [] } }⟩

theorem allSources_mergedProject :
    mergedProject.allSources cartTree = [⟨"/shop/src/Cart.java"⟩] :=
  discover_of_ordered (by decide +kernel) (List.pairwise_singleton _ _)

/-- **A configuration that is in order lets a run put a test over a source.** -/
theorem not_keepsSources_merged :
    mergedProject.config.validate = .ok () ∧ LeavesTree cartCollaborators ∧
      ∃ report events s',
        mergedProject.run cartCollaborators none (cartTree, ()) = .ok (report, events, s') ∧
          ∃ g ∈ mergedProject.allSources cartTree, s'.1.read g ≠ cartTree.read g := by
  refine ⟨by decide +kernel, leavesTree_cart, ?_⟩
  have hchanged : (match mergedProject.run cartCollaborators none (cartTree, ()) with
      | .ok (_, _, s') => some (s'.1.read ⟨"/shop/src/Cart.java"⟩)
      | .error _ => none) ∉ [none, some (cartTree.read ⟨"/shop/src/Cart.java"⟩)] := by
    rw [Project.run, Project.index, Project.sources]
    simp only [allSources_mergedProject]
    decide +kernel
  cases hrun : mergedProject.run cartCollaborators none (cartTree, ()) with
  | error e =>
    rw [hrun] at hchanged
    exact absurd List.mem_cons_self hchanged
  | ok result =>
    obtain ⟨report, events, s'⟩ := result
    rw [hrun] at hchanged
    refine ⟨report, events, s', rfl, ⟨"/shop/src/Cart.java"⟩, ?_, fun hsame => hchanged ?_⟩
    · rw [allSources_mergedProject]
      exact List.mem_cons_self
    · simp only [hsame, List.mem_cons, true_or, or_true]

end Testsmith
