/-
# Different classes get different tests

A package and the name of a test class can be read back from where the test goes: the directories
below the test root are the parts of the package, and the file behind them is named after the class
(`destinationsApart`). So tests of a run that go to the same place are of files with the same stem,
which declare the same package; and a test that was generated stays as it was approved until a file
like that is visited (`run_testsApart`).

The stems are the same whatever is declared. The packages have to be such: what a comment adds to one
can be a path of its own, which other packages share.

Key definitions: `IsPackage`, `DestinationsApart`, `Visit.SameClass`, `TestsApart`.
Key theorems: `destinationsApart`, `sameClass_of_leadsTo`, `run_testsApart`.
-/
import Testsmith.Proofs.Run.Overwrites
import Testsmith.Proofs.Run.TestRoot

namespace Testsmith

open FileTree Repair

/-- A name is the only part of the path that it stands for. -/
theorem Path.IsName.pathParts_eq {s : String} (h : Path.IsName s) : pathParts ⟨s⟩ = [s] := by
  rw [Path.pathParts_eq, Path.splitSlashes_of_not_slash h.2]
  exact Path.namesOf_map_toList (List.forall_mem_singleton.mpr h)

/-! ### Packages -/

/-- No text at all, or names with points between them: none is empty or has a slash. -/
def IsPackage (package : String) : Prop :=
  package = "" ∨ ∀ name ∈ package.toList.splitOn '.', name ≠ [] ∧ '/' ∉ name

instance (package : String) : Decidable (IsPackage package) :=
  inferInstanceAs (Decidable (_ ∨ ∀ name ∈ package.toList.splitOn '.', _ ∧ _))

namespace IsPackage

variable {package package' : String}

theorem not_slash (h : IsPackage package) : '/' ∉ package.toList := by
  intro hslash
  have hback : ['.'].intercalate (package.toList.splitOn '.') = package.toList :=
    List.intercalate_splitOn '.'
  rcases h with rfl | h
  · cases hslash
  · rw [← hback] at hslash
    rcases Text.mem_intercalate hslash with hslash | ⟨name, hname, hslash⟩
    · exact absurd (List.mem_singleton.mp hslash) (by decide)
    · exact (h name hname).2 hslash

/-- With points between them the parts are the package. -/
theorem intercalate_partsOf (h : IsPackage package) :
    ['.'].intercalate ((partsOf package).map String.toList) = package.toList := by
  rcases h with rfl | h
  · rfl
  · have hall : (package.toList.splitOn '.').filter (fun s => !s.isEmpty) =
        package.toList.splitOn '.' := by
      refine List.filter_eq_self.mpr fun name hname => ?_
      simpa using (h name hname).1
    rw [partsOf, hall, Path.map_toList_ofList]
    exact List.intercalate_splitOn '.'

theorem eq_of_partsOf (h : IsPackage package) (h' : IsPackage package')
    (hparts : partsOf package = partsOf package') : package = package' := by
  rw [← String.toList_inj, ← h.intercalate_partsOf, ← h'.intercalate_partsOf, hparts]

/-- The directories for a package are its parts. -/
theorem packageParts_eq (h : IsPackage package) : packageParts package = partsOf package := by
  have hone : ∀ s ∈ partsOf package, pathParts ⟨s⟩ = [s] := by
    intro s hs
    obtain ⟨hpoint, hne⟩ := mem_partsOf hs
    exact (isName_of_part hpoint hne fun hc => h.not_slash (mem_of_mem_partsOf hs hc)).pathParts_eq
  rw [packageParts, packageSegments_eq, List.flatMap_congr hone, List.flatMap_singleton']

theorem relativePackage (h : IsPackage package) : RelativePackage package := by
  intro s hs
  rw [packageSegments_eq] at hs
  exact Path.not_isAbsolute fun hc => h.not_slash (mem_of_mem_partsOf hs hc)

end IsPackage

/-! ### Where tests go -/

/-- Whatever the package is, a test goes to a file with the name of its class. -/
theorem exists_spelled_destination (root : Path) (package : String) {testClass : String}
    (hclass : '/' ∉ testClass.toList) :
    ∃ dirs, spelled (destination root package testClass) = dirs ++ [testClass ++ ".java"] := by
  have hname := isName_file hclass
  have hup : testClass ++ ".java" ≠ ".." :=
    downward_of_isName (List.forall_mem_singleton.mpr hname) _ List.mem_cons_self
  rw [destination, spelled, Path.pathParts_join _ (Path.not_isAbsolute hname.2), hname.pathParts_eq,
    spell_concat, turn_name _ hup]
  exact ⟨_, rfl⟩

/-- Below the test root there is a directory for each part of the package. -/
theorem spelled_destination (root : Path) {package testClass : String} (h : IsPackage package)
    (hclass : '/' ∉ testClass.toList) : spelled (destination root package testClass) =
      spelled root ++ (partsOf package ++ [testClass ++ ".java"]) := by
  obtain ⟨q, hfile, hq⟩ := destination_filePath root hclass h.relativePackage
  have hdown : ∀ s ∈ packageParts package, s ≠ ".." :=
    fun s hs => ne_up_of_not_point (not_point_of_mem_packageParts hs)
  rw [hfile.spelled_eq, spelled, hq, spell_append_down _ hdown, h.packageParts_eq, List.append_assoc]
  rfl

/-- Different classes have different paths under a root, and these lead to different places. -/
structure DestinationsApart (root : Path) : Prop where
  components : ∀ {package package' testClass testClass' : String}, IsPackage package →
    IsPackage package' → '/' ∉ testClass.toList → '/' ∉ testClass'.toList →
      ((destination root package testClass).components =
        (destination root package' testClass').components ↔
          package = package' ∧ testClass = testClass')
  places : ∀ {package package' testClass testClass' : String}, IsPackage package →
    IsPackage package' → '/' ∉ testClass.toList → '/' ∉ testClass'.toList →
      (spelled (destination root package testClass) =
        spelled (destination root package' testClass') ↔
          package = package' ∧ testClass = testClass')

/-- **Different classes get different tests.** -/
theorem destinationsApart (root : Path) : DestinationsApart root where
  components := by
    intro package package' testClass testClass' h h' hclass hclass'
    refine ⟨fun he => ?_, fun ⟨hp, ht⟩ => by rw [hp, ht]⟩
    rw [mirrors_of_not_slash root h.not_slash hclass, mirrors_of_not_slash root h'.not_slash hclass',
      List.append_assoc, List.append_assoc] at he
    obtain ⟨hparts, hfile⟩ := List.append_inj' (List.append_cancel_left he) rfl
    have hnames : Function.Injective Path.Component.name := fun _ _ hn => Path.Component.name.inj hn
    refine ⟨h.eq_of_partsOf h' (hnames.list_map hparts), ?_⟩
    simpa using hfile
  places := by
    intro package package' testClass testClass' h h' hclass hclass'
    refine ⟨fun he => ?_, fun ⟨hp, ht⟩ => by rw [hp, ht]⟩
    rw [spelled_destination root h hclass, spelled_destination root h' hclass'] at he
    obtain ⟨hparts, hfile⟩ := List.append_inj' (List.append_cancel_left he) rfl
    refine ⟨h.eq_of_partsOf h' hparts, ?_⟩
    simpa using hfile

/-! ### Tests of a run -/

variable {σ : Type}

/-- The package that the file declares, as it is read at the visit. -/
def Visit.package (v : Visit σ) : String := (Project.factsIn v.before.1 v.file).package

/-- The files have the same stem, and what they declare is the same package if it is one. -/
def Visit.SameClass (v w : Visit σ) : Prop :=
  Project.className v.file = Project.className w.file ∧
    (IsPackage v.package → IsPackage w.package → v.package = w.package)

/-- No test of a run goes over one of another class. -/
structure TestsApart (p : Project) (c : Collaborators (FileTree × σ)) (only : Option Glob.Pattern)
    (s : FileTree × σ) : Prop where
  /-- Tests that go to the same place, in whatever tree, are of files with the same stem that
  declare the same package. -/
  places : ∀ v ∈ p.visits c only s, ∀ w ∈ p.visits c only s, ∀ t l, v.LeadsTo t l →
    w.LeadsTo t l → v.SameClass w
  /-- At every moment a test that was generated is there as it was approved, unless one of a file
  like that has been generated since. -/
  kept : LeavesTree c → ∀ earlier v later, earlier ++ v :: later <+: p.visits c only s →
    ∀ path, v.outcome.status = .generated path →
      (∃ a, approved v.calls = [a] ∧ a.path = path ∧
        (treeAfter s.1 (earlier ++ v :: later)).read path = .ok a.render.toUTF8) ∨
      ∃ w ∈ later, (∃ path', w.outcome.status = .generated path') ∧ v.SameClass w

namespace Project

variable {p : Project} {c : Collaborators (FileTree × σ)} {only : Option Glob.Pattern}
  {s : FileTree × σ}

/-- A visit is the work on a file from the state before it. -/
theorem processFile_of_mem_visitsFrom {index : SymbolIndex} {v : Visit σ} :
    ∀ {files : List Path} {s : FileTree × σ}, v ∈ p.visitsFrom c index files s →
      ∃ spent, p.processFile c index v.file v.before = .ok (v.outcome, spent, v.after)
  | [], _, h => absurd h List.not_mem_nil
  | file :: files, s, h => by
    cases hfile : p.processFile c index file s with
    | error e =>
      rw [visitsFrom, hfile] at h
      exact absurd h List.not_mem_nil
    | ok processed =>
      obtain ⟨o, spent, s₁⟩ := processed
      rw [visitsFrom_cons hfile] at h
      rcases List.mem_cons.mp h with rfl | h
      · exact ⟨spent, hfile⟩
      · exact processFile_of_mem_visitsFrom h

/-- A test goes where the stem of its file and the package declared in it say. -/
theorem path_of_mem_visits {v : Visit σ} (hv : v ∈ p.visits c only s) {path : Path}
    (hpath : v.outcome.status = .generated path) :
    path = destination p.testRoot v.package (p.testClass v.file) := by
  rcases prefix_visits (List.prefix_refl (p.visits c only s)) with hnone | ⟨index, hfrom⟩
  · rw [hnone] at hv
    exact absurd hv List.not_mem_nil
  · obtain ⟨spent, hfile⟩ := processFile_of_mem_visitsFrom (hfrom.subset hv)
    obtain ⟨source, hread, -, htest⟩ := testFor?_eq_some (testFor?_of_generated hfile hpath)
    rw [← htest, testPath, Visit.package, factsIn_of_read hread]

/-- **Tests that go to the same place are of files with the same stem and package.** -/
theorem sameClass_of_leadsTo (hsuffix : '/' ∉ p.config.project.testSuffix.toList) {v w : Visit σ}
    (hv : v ∈ p.visits c only s) (hw : w ∈ p.visits c only s) {t : FileTree} {l : Location}
    (hvl : v.LeadsTo t l) (hwl : w.LeadsTo t l) : v.SameClass w := by
  obtain ⟨path, hpath, hl⟩ := hvl
  obtain ⟨path', hpath', hl'⟩ := hwl
  obtain rfl := path_of_mem_visits hv hpath
  obtain rfl := path_of_mem_visits hw hpath'
  have hclass := not_slash_testClass hsuffix v.file
  have hclass' := not_slash_testClass hsuffix w.file
  have hsame : spelled (destination p.testRoot v.package (p.testClass v.file)) =
      spelled (destination p.testRoot w.package (p.testClass w.file)) :=
    (locate_spelled hl).symm.trans (locate_spelled hl')
  refine ⟨?_, fun h h' => (((destinationsApart p.testRoot).places h h' hclass hclass').mp hsame).1⟩
  obtain ⟨dirs, hdirs⟩ := exists_spelled_destination p.testRoot v.package hclass
  obtain ⟨dirs', hdirs'⟩ := exists_spelled_destination p.testRoot w.package hclass'
  rw [hdirs, hdirs'] at hsame
  have hfile := (List.append_singleton_inj.mp hsame).2
  rwa [String.append_left_inj, testClass, testClass, String.append_left_inj] at hfile

/-- What was approved stays, unless a test goes over it. -/
theorem read_or_overwritten (hc : LeavesTree c) {earlier later : List (Visit σ)} {v : Visit σ}
    (hdone : earlier ++ v :: later <+: p.visits c only s) {path : Path}
    (hpath : v.outcome.status = .generated path) :
    (∃ a, approved v.calls = [a] ∧ a.path = path ∧
      (treeAfter s.1 (earlier ++ v :: later)).read path = .ok a.render.toUTF8) ∨
      ∃ w ∈ later, ∃ l, v.LeadsTo (treeAfter s.1 (earlier ++ v :: later)) l ∧
        w.LeadsTo (treeAfter s.1 (earlier ++ v :: later)) l := by
  have hleaves : Leaves (earlier ++ v :: later) s.1 (treeAfter s.1 (earlier ++ v :: later)) := by
    rcases prefix_visits hdone with hnone | ⟨index, hfrom⟩
    · simp at hnone
    · exact visitsFrom_leaves hc hfrom
  generalize treeAfter s.1 (earlier ++ v :: later) = t at hleaves ⊢
  have hv : v ∈ earlier ++ v :: later := by simp
  obtain ⟨l, hl⟩ := hleaves.leads v hv path hpath
  have hvl : v.LeadsTo t l := ⟨path, hpath, hl⟩
  obtain ⟨before, last, after, a, hvisits, hlast, hal, hafter, happroved, hfile⟩ :=
    hleaves.last l ⟨v, hv, hvl⟩
  -- the last visit that leads there is this one or a later one
  have hplace : last = v ∨ last ∈ later := by
    rcases List.append_eq_append_iff.mp hvisits with ⟨as, -, h⟩ | ⟨as, -, h⟩
    · rcases List.cons_eq_append_iff.mp h with ⟨-, h⟩ | ⟨as', -, h⟩
      · exact Or.inl (List.cons.inj h).1
      · exact Or.inr (by simp [h])
    · rcases List.cons_eq_append_iff.mp h with ⟨-, h⟩ | ⟨as', -, h⟩
      · exact Or.inl (List.cons.inj h).1.symm
      · exact absurd hvl (hafter v (by simp [h]))
  rcases hplace with rfl | hlater
  · left
    rw [hlast, FileStatus.generated.injEq] at hpath
    exact ⟨a, happroved, hpath, by rw [← hpath, read_of_locate hal hfile]⟩
  · exact Or.inr ⟨last, hlater, l, hvl, a.path, hlast, hal⟩

/-- **Different classes get different tests**, at every test root; and no test of a run goes over one
of another class, if the suffix of test classes has no slash. -/
theorem run_testsApart (hsuffix : '/' ∉ p.config.project.testSuffix.toList)
    (c : Collaborators (FileTree × σ)) (only : Option Glob.Pattern) (s : FileTree × σ) :
    (∀ root, DestinationsApart root) ∧ TestsApart p c only s := by
  refine ⟨destinationsApart, fun v hv w hw t l => sameClass_of_leadsTo hsuffix hv hw, ?_⟩
  intro hc earlier v later hdone path hpath
  refine (read_or_overwritten hc hdone hpath).imp_right ?_
  rintro ⟨w, hw, l, hvl, hwl⟩
  have hmem : w ∈ earlier ++ v :: later := by simp [hw]
  obtain ⟨path', hpath', -⟩ := id hwl
  exact ⟨w, hw, ⟨path', hpath'⟩,
    sameClass_of_leadsTo hsuffix (hdone.subset (by simp)) (hdone.subset hmem) hvl hwl⟩

end Project

/-- Two packages with a class of the same name in each. -/
def twinProject : Project :=
  ⟨⟨"/r"⟩, { project :=
    { sourceRoot := ⟨"s"⟩, testRoot := ⟨"t"⟩, includePatterns := ["a/A.java", "b/A.java"],
      excludePatterns := [] } }⟩

def twinTree : FileTree :=
  ⟨[(["r"], .directory), (["r", "s"], .directory), (["r", "s", "a"], .directory),
    (["r", "s", "a", "A.java"], .file "package a; class A \x7b\x7d".toUTF8),
    (["r", "s", "b"], .directory),
    (["r", "s", "b", "A.java"], .file "package b; class A \x7b\x7d".toUTF8)]⟩

theorem allSources_twinProject :
    twinProject.allSources twinTree = [⟨"/r/s/a/A.java"⟩, ⟨"/r/s/b/A.java"⟩] :=
  discover_of_ordered (by decide +kernel) (by decide +kernel)

/-- A test is generated for each, in a directory of its own. -/
theorem run_testsApart_twins :
    let visits := twinProject.visits cartCollaborators none (twinTree, ())
    '/' ∉ twinProject.config.project.testSuffix.toList ∧ LeavesTree cartCollaborators ∧
      visits.map Visit.package = ["a", "b"] ∧ IsPackage "a" ∧ IsPackage "b" ∧
      visits.map (·.outcome.status) =
        [.generated ⟨"/r/t/a/ATest.java"⟩, .generated ⟨"/r/t/b/ATest.java"⟩] ∧
      (∀ root, DestinationsApart root) ∧
        TestsApart twinProject cartCollaborators none (twinTree, ()) := by
  intro visits
  have hsuffix : '/' ∉ twinProject.config.project.testSuffix.toList := by
    change '/' ∉ "Test".toList
    decide
  have hvisits : visits.map Visit.package = ["a", "b"] ∧ visits.map (·.outcome.status) =
      [.generated ⟨"/r/t/a/ATest.java"⟩, .generated ⟨"/r/t/b/ATest.java"⟩] := by
    unfold visits Project.visits Project.index Project.sources
    simp only [allSources_twinProject]
    decide +kernel
  exact ⟨hsuffix, leavesTree_cart, hvisits.1, by decide +kernel, by decide +kernel, hvisits.2,
    Project.run_testsApart hsuffix cartCollaborators none (twinTree, ())⟩

end Testsmith
