/-
# Files do not get into each other's way

What comes of a file depends on the file, on the index and on the tree before the run, and not on
the files worked on before it. The collaborators keep nothing (`Stateless`), the sources stay as they
are, and what earlier tests leave in the tree makes no difference to whether a test can be written:
there are more directories on the ways of tests, and files where tests go (`Grown`), but no place of
a test is on the way of another (`TestPlace.apart`). So a run over some of the files is the run over
all of them, restricted to these (`run_filesIsolated`).

It takes that no `..` of the test root leads back from where nothing is: the test root is then found
to be unusable only after a directory was made, and the error is another one afterwards. And it takes
that no part of a package is a path from the top: such a test can be put in the way of others. Each of
the two is needed (`not_filesIsolated`).

Key definitions: `Stateless`, `Grown`, `Visit.trace`, `Independent`, `FilesIsolated`.
Key theorems: `Grown.place_result`, `processFile_isolated`, `visitsFrom_isolated`,
`run_filesIsolated`.
-/
import Testsmith.Proofs.Run.Forecast
import Testsmith.Proofs.Run.Places

namespace Testsmith

open FileTree Repair

/-! ### Collaborators that keep nothing -/

/-- The provider answers by the prompt, and the verifier by the test. -/
structure Stateless {τ : Type} (c : Collaborators τ) : Prop where
  generate : ∀ prompt s s', (c.generate prompt s).1 = (c.generate prompt s').1
  verify : ∀ a s s', (c.verify a s).1 = (c.verify a s').1

namespace Repair

variable {τ : Type} {c : Collaborators τ} {j : Job}

theorem step_stateless (hc : Stateless c) (r : Run) (s s' : τ) :
    (step c j r s).1 = (step c j r s').1 ∧ callsOf c j r s = callsOf c j r s' := by
  rw [step, step, callsOf, callsOf]
  cases hr : r.state with
  | generating k =>
    dsimp only
    rw [hc.generate _ s s']
    exact ⟨rfl, rfl⟩
  | compiling k artifact =>
    have hanswer := hc.verify artifact s s'
    dsimp only
    generalize c.verify artifact s = answer at hanswer ⊢
    generalize c.verify artifact s' = answer' at hanswer ⊢
    obtain ⟨result, s₁⟩ := answer
    obtain ⟨result', s₁'⟩ := answer'
    obtain rfl : result = result' := hanswer
    cases result with
    | error e => exact ⟨rfl, rfl⟩
    | ok v => exact ⟨rfl, rfl⟩
  | retrying k => exact ⟨rfl, rfl⟩
  | success artifact => exact ⟨rfl, rfl⟩
  | failed => exact ⟨rfl, rfl⟩

/-- A repair run with them goes the same way from every state. -/
theorem runFrom_stateless (hc : Stateless c) : ∀ (bound : Nat) (r : Run) (s s' : τ),
    (runFrom c j bound r s).1 = (runFrom c j bound r s').1 ∧
      callsFrom c j bound r s = callsFrom c j bound r s'
  | 0, _, _, _ => ⟨rfl, rfl⟩
  | bound + 1, r, s, s' => by
    obtain ⟨hstep, hcalls⟩ := step_stateless hc (j := j) r s s'
    rw [runFrom, runFrom, callsFrom, callsFrom]
    cases hr : r.state.isTerminal with
    | true => exact ⟨rfl, rfl⟩
    | false =>
      simp only [Bool.false_eq_true, if_false, hcalls]
      generalize step c j r s = taken at hstep ⊢
      generalize step c j r s' = taken' at hstep ⊢
      obtain ⟨result, s₁⟩ := taken
      obtain ⟨result', s₁'⟩ := taken'
      obtain rfl : result = result' := hstep
      rcases result with e | ⟨next, _ | e⟩
      · cases e
        exact ⟨rfl, rfl⟩
      · obtain ⟨hrun, hrest⟩ := runFrom_stateless hc bound next s₁ s₁'
        exact ⟨hrun, congrArg _ hrest⟩
      · exact ⟨rfl, rfl⟩

/-- It ends the same way, after the same calls. -/
theorem outcome_stateless (hc : Stateless c) {s s' : τ} {result : Except Halt Outcome}
    (h : outcome c j s = (result, s')) (u : τ) : ∃ u', outcome c j u = (result, u') ∧
      callsFrom c j j.stepBound .start u = callsFrom c j j.stepBound .start s := by
  obtain ⟨hresult, hcalls⟩ := runFrom_stateless hc (j := j) j.stepBound .start u s
  have hfirst : (outcome c j u).1 = result := by
    rw [outcome, hresult, ← outcome, h]
  exact ⟨(outcome c j u).2, by rw [← hfirst], hcalls⟩

end Repair

/-! ### What tests leave in a tree -/

/-- A tree in which some tests were placed, or tried to. -/
structure Grown (p : Project) (IsTest : Path → Prop) (t u : FileTree) : Prop where
  wellFormed : u.WellFormed
  dirs : KeepsDirs t u
  /-- What has changed is a file in the place of a test, or a directory on the way of one. -/
  changed : ∀ l, u.node? l ≠ t.node? l →
    (∃ path, IsTest path ∧ l = spelled path ∧ ∃ content, u.node? l = some (.file content)) ∨
      t.node? l = none ∧ u.node? l = some .directory ∧ ∃ path q dirs name,
        TestPlace p path q dirs name ∧ ∃ ms, ms <+: pathParts q ∧ spell ms = l

namespace Grown

variable {p : Project} {IsTest : Path → Prop} {t u v : FileTree} {path q : Path}
  {dirs : List String} {name : String}

theorem refl (ht : t.WellFormed) : Grown p IsTest t t where
  wellFormed := ht
  dirs := fun _ h => h
  changed := fun _ h => absurd rfl h

theorem same (h : Grown p IsTest t u) (hv : v.Same u) : Grown p IsTest t v where
  wellFormed := fun l n hl => by
    rw [hv] at hl ⊢
    exact h.wellFormed l n hl
  dirs := fun l hl => by
    rw [hv]
    exact h.dirs l hl
  changed := fun l hl => by
    rw [hv] at hl ⊢
    exact h.changed l hl

/-- Nothing is taken away. -/
theorem there (h : Grown p IsTest t u) {l : Location} (hl : t.node? l ≠ none) :
    u.node? l ≠ none := by
  by_cases hsame : u.node? l = t.node? l
  · rwa [hsame]
  · rcases h.changed l hsame with ⟨-, -, -, content, hfile⟩ | ⟨hnone, -, -⟩
    · simp [hfile]
    · exact absurd hnone hl

theorem noWayBack (h : Grown p IsTest t u) {parts : List String} (hback : NoWayBack t parts) :
    NoWayBack u parts :=
  fun ms hms => h.there (hback ms hms)

section
variable (h : Grown p IsTest t u) (ht : t.WellFormed)
  (hback : NoWayBack t (pathParts p.testRoot)) (hplace : TestPlace p path q dirs name)

include h ht hback hplace

/-- On the way of a test there are files where there were files. -/
theorem files (hplaces : ∀ path, IsTest path → ∃ q dirs name, TestPlace p path q dirs name)
    {ms : List String} (hms : ms <+: pathParts q) :
    (t.fileAt (spell ms)).isSome = (u.fileAt (spell ms)).isSome := by
  by_cases hsame : u.node? (spell ms) = t.node? (spell ms)
  · rw [FileTree.fileAt, FileTree.fileAt, hsame]
  · rcases h.changed _ hsame with ⟨path', htest, hl, content, hfile⟩ | ⟨hnone, hdir, -⟩
    · -- a test is in its place: this is on the way, so that something was there, and no directory
      obtain ⟨q', dirs', name', hplace'⟩ := hplaces path' htest
      have hthere := hplace'.apart hplace ht hback hms hl
      rw [← hl] at hthere
      rw [fileAt_of_file hfile]
      rcases hn : t.node? (spell ms) with _ | _ | old
      · exact absurd hn hthere
      · rw [h.dirs _ hn] at hfile
        cases hfile
      · rw [fileAt_of_file hn]
        rfl
    · rw [fileAt_of_not_file (by simp [hnone]), fileAt_of_not_file (by simp [hdir])]

/-- In the place of a test there is a directory where there was one. -/
theorem directory_iff : t.node? (spelled path) = some .directory ↔
    u.node? (spelled path) = some .directory := by
  refine ⟨h.dirs _, fun hdir => ?_⟩
  by_cases hsame : u.node? (spelled path) = t.node? (spelled path)
  · rwa [← hsame]
  · rcases h.changed _ hsame with ⟨-, -, -, content, hfile⟩ |
      ⟨hnone, -, path', q', dirs', name', hplace', ms, hms, hl⟩
    · rw [hdir] at hfile
      cases hfile
    · exact absurd hnone (hplace.apart hplace' ht hback hms hl)

/-- **What comes of placing a test is what it would have been before.** -/
theorem place_result (hplaces : ∀ path, IsTest path → ∃ q dirs name, TestPlace p path q dirs name)
    (content content' : ByteArray) : (t.place path content).1 = (u.place path content').1 :=
  place_congr ht h.wellFormed hplace.file (hplace.noWayBack hback)
    (h.noWayBack (hplace.noWayBack hback))
    (fun _ hms => h.files ht hback hplace hplaces hms) (h.directory_iff ht hback hplace) _ _

omit ht in
/-- One more test is placed, or tried to. -/
theorem place (htest : IsTest path) (content : ByteArray) :
    Grown p IsTest t (u.place path content).2 := by
  have hchanges := place_changes h.wellFormed hplace.file
    (h.noWayBack (hplace.noWayBack hback)) content
  refine ⟨hchanges.wellFormed, h.dirs.trans hchanges.dirs, fun l hl => ?_⟩
  by_cases hsame : (u.place path content).2.node? l = u.node? l
  · rw [hsame] at hl ⊢
    exact h.changed l hl
  · rcases hchanges.changed l hsame with ⟨hspelled, hfile⟩ | ⟨hnone, hdir, hway⟩
    · exact Or.inl ⟨path, htest, hspelled, hfile⟩
    · have hbefore : t.node? l = none := by
        by_contra hthere
        exact h.there hthere hnone
      exact Or.inr ⟨hbefore, hdir, path, q, dirs, name, hplace, hway⟩

end

end Grown

/-! ### The work on one file -/

/-- No part of the package of a file that there is to be a test for is a path from the top. -/
def RelativePackages (t : FileTree) (files : List Path) : Prop :=
  ∀ f ∈ files, ∀ source ∈ (t.readText f).toOption,
    (classify (Java.analyze source)).isSkip = false → RelativePackage (Java.analyze source).package

instance (t : FileTree) (files : List Path) : Decidable (RelativePackages t files) :=
  inferInstanceAs (Decidable (∀ f ∈ files, ∀ source ∈ (t.readText f).toOption, _ = _ → _))

/-- The path is that of the test of one of the files. -/
def IsTestOf (p : Project) (t : FileTree) (files : List Path) (path : Path) : Prop :=
  ∃ f ∈ files, p.testFor? t f = some path

/-- The tests of the files can be told from all else by where they go. -/
structure Separate (p : Project) (t : FileTree) (files : List Path) : Prop where
  wellFormed : t.WellFormed
  suffix : '/' ∉ p.config.project.testSuffix.toList
  found : ∀ f ∈ files, t.hasFile f = true
  sources : NoTestOver p t files
  noWayBack : NoWayBack t (pathParts p.testRoot)
  packages : RelativePackages t files

/-- The content of the test that the work on a file ended with, if there is one. -/
def writtenTest (status : FileStatus) (t : FileTree) : Option ByteArray :=
  match status with
  | .generated path => (t.read path).toOption
  | _ => none

variable {σ : Type} {p : Project} {c : Collaborators (FileTree × σ)} {index : SymbolIndex}
  {t : FileTree} {files : List Path}

/-- The tree has grown by tests of the files. -/
abbrev GrownBy (p : Project) (files : List Path) (t u : FileTree) : Prop :=
  Grown p (IsTestOf p t files) t u

theorem testFor?_eq_some {f path : Path} (h : p.testFor? t f = some path) :
    ∃ source, t.readText f = .ok source ∧ (classify (Java.analyze source)).isSkip = false ∧
      p.testPath f (Java.analyze source) = path := by
  rw [Project.testFor?] at h
  cases hread : t.readText f with
  | error e =>
    rw [hread] at h
    cases h
  | ok source =>
    simp only [hread] at h
    split at h
    · cases h
    · rename_i hskip
      exact ⟨source, rfl, by simpa using hskip, Option.some.inj h⟩

theorem Separate.places (h : Separate p t files) (path : Path) (htest : IsTestOf p t files path) :
    ∃ q dirs name, TestPlace p path q dirs name := by
  obtain ⟨f, hf, hpath⟩ := htest
  obtain ⟨source, hread, hskip, rfl⟩ := testFor?_eq_some hpath
  have hsource : source ∈ (t.readText f).toOption := by
    rw [hread]
    rfl
  exact Project.exists_testPlace h.suffix f (h.packages f hf source hsource hskip)

/-- Tests that are placed leave the sources as they are. -/
theorem Grown.keepsSources {u : FileTree} (h : GrownBy p files t u) (hsep : Separate p t files) :
    KeepsSources t u files := by
  refine ⟨h.dirs, fun g hg => ?_⟩
  by_contra hchanged
  rcases h.changed _ hchanged with ⟨path, ⟨f, hf, hpath⟩, hl, -⟩ | ⟨hnone, -⟩
  · exact hsep.sources f hf path hpath g hg hl.symm
  · obtain ⟨content, -, hfile⟩ := hasFile_iff.mp (hsep.found g hg)
    rw [hfile] at hnone
    cases hnone

theorem Grown.readText {u : FileTree} (h : GrownBy p files t u) (hsep : Separate p t files)
    {f : Path} (hf : f ∈ files) : u.readText f = t.readText f :=
  (h.keepsSources hsep).readText hf (hsep.found f hf)

namespace Project

/-- What comes of taking up a test, whether it could be written or not. -/
theorem conclude_ok (a : Artifact) (t : FileTree) : conclude (.ok a) t =
    (match (a.save t).1 with
      | .ok () => .generated a.path
      | .error e => .failed (.write e), (a.save t).2) := by
  cases hsave : a.save t with
  | mk result u =>
    cases result with
    | error e => simp only [conclude, hsave]
    | ok _ => simp only [conclude, hsave]

theorem writtenTest_conclude (a : Artifact) (t : FileTree) :
    writtenTest (conclude (.ok a) t).1 (conclude (.ok a) t).2 =
      match (a.save t).1 with
        | .ok () => some a.render.toUTF8
        | .error _ => none := by
  rw [conclude_ok]
  cases hsave : a.save t with
  | mk result u =>
    cases result with
    | error e => rfl
    | ok _ =>
      obtain ⟨l, hl, -, hn, -⟩ := place_ok hsave
      simp only [writtenTest, read_of_locate hl hn]
      rfl

/-- The end of a repair run is taken up in the same way in trees that tests have left. -/
theorem conclude_isolated (hsep : Separate p t files) {u v : FileTree} (hu : GrownBy p files t u)
    (hv : GrownBy p files t v) {result : Except RepairError Artifact}
    (htest : ∀ a, result = .ok a → IsTestOf p t files a.path) :
    (conclude result u).1 = (conclude result v).1 ∧
      writtenTest (conclude result u).1 (conclude result u).2 =
        writtenTest (conclude result v).1 (conclude result v).2 ∧
      GrownBy p files t (conclude result u).2 := by
  cases result with
  | error e => exact ⟨rfl, rfl, hu⟩
  | ok a =>
    have hpath := htest a rfl
    obtain ⟨q, dirs, name, hplace⟩ := hsep.places a.path hpath
    have hsame : (a.save u).1 = (a.save v).1 :=
      (hu.place_result hsep.wellFormed hsep.noWayBack hplace hsep.places _ _).symm.trans
        (hv.place_result hsep.wellFormed hsep.noWayBack hplace hsep.places a.render.toUTF8 _)
    rw [writtenTest_conclude, writtenTest_conclude, conclude_ok, conclude_ok, hsame]
    exact ⟨rfl, rfl, hu.place hsep.noWayBack hplace hpath _⟩

-- This stays closed where the cases of `Processing` compare outcomes field by field.
attribute [local irreducible] display

/-- **What comes of a file does not depend on the files worked on before.** -/
theorem processFile_isolated (hc : LeavesTree c) (hs : Stateless c) (hsep : Separate p t files)
    {f : Path} (hf : f ∈ files) {s u s' : FileTree × σ} (hgs : GrownBy p files t s.1)
    (hgu : GrownBy p files t u.1) {o : FileOutcome} {spent : TokenUsage}
    (h : p.processFile c index f s = .ok (o, spent, s')) :
    ∃ u', p.processFile c index f u = .ok (o, spent, u') ∧
      p.callsOn c index f u = p.callsOn c index f s ∧
      writtenTest o.status u'.1 = writtenTest o.status s'.1 ∧
      GrownBy p files t s'.1 ∧ GrownBy p files t u'.1 := by
  have hread : u.1.readText f = s.1.readText f :=
    (hgu.readText hsep hf).trans (hgs.readText hsep hf).symm
  have hagain {source : String} {j : Job} (ht : Tested p index s.1 f source j) :
      Tested p index u.1 f source j := ⟨hread.trans ht.read, ht.strategy, ht.job⟩
  have hcases := processFile_processing p c index f s
  rw [h] at hcases
  generalize p.callsOn c index f s = calls at hcases ⊢
  cases hcases with
  | unread hr =>
    rw [← hread] at hr
    refine ⟨u, ?_, ?_, rfl, hgs, hgu⟩
    · rw [processFile, hr]
    · rw [callsOn, hr]
  | skipped hr hclass =>
    rw [← hread] at hr
    refine ⟨u, ?_, ?_, rfl, hgs, hgu⟩
    · simp only [processFile, hr, hclass]
    · simp only [callsOn, hr, hclass]
  | @unbuilt source j e s' ht hrun =>
    obtain ⟨hcalls, hfile⟩ := processFile_of_tested (c := c) (hagain ht)
    obtain ⟨u', hrun', hsame⟩ := outcome_stateless hs hrun u
    rw [hrun'] at hfile
    exact ⟨u', hfile, hcalls.trans hsame, rfl, hgs.same (outcome_same hc hrun),
      hgu.same (outcome_same hc hrun')⟩
  | @ended source j o s' ht hrun =>
    obtain ⟨hcalls, hfile⟩ := processFile_of_tested (c := c) (hagain ht)
    obtain ⟨u', hrun', hsame⟩ := outcome_stateless hs hrun u
    rw [hrun'] at hfile
    have htest (a : Artifact) (ha : o.result = .ok a) : IsTestOf p t files a.path := by
      refine ⟨f, hf, ?_⟩
      rw [← testFor?_congr (hgs.readText hsep hf), testFor?_of_outcome ht hrun ha]
    have hgs' := hgs.same (outcome_same hc hrun)
    have hgu' := hgu.same (outcome_same hc hrun')
    obtain ⟨hstatus, hwritten, hgrown⟩ := conclude_isolated hsep hgs' hgu' htest
    obtain ⟨-, -, hgrown'⟩ := conclude_isolated hsep hgu' hgs' htest
    refine ⟨((conclude o.result u'.1).2, u'.2), ?_, hcalls.trans hsame, ?_, hgrown, hgrown'⟩
    · rw [hfile]
      dsimp only
      rw [hstatus]
    · dsimp only [outcomeOf]
      rw [hwritten, hstatus]

/-! ### Runs over all files and over some of them -/

theorem processFile_file {f : Path} {s s' : FileTree × σ} {o : FileOutcome} {spent : TokenUsage}
    (h : p.processFile c index f s = .ok (o, spent, s')) : o.file = p.display f := by
  have hcases := processFile_processing p c index f s
  rw [h] at hcases
  generalize p.callsOn c index f s = calls at hcases
  cases hcases <;> simp only [outcomeOf]

end Project

/-- What is known of a visit but for the states before and after it. -/
structure Trace where
  file : Path
  calls : List Call
  outcome : FileOutcome
  /-- The content of the test, if one was generated. -/
  written : Option ByteArray

def Visit.trace (v : Visit σ) : Trace :=
  ⟨v.file, v.calls, v.outcome, writtenTest v.outcome.status v.after.1⟩

theorem SumsFit.mono {used used' : TokenUsage} {work : List (List Call)} (h : SumsFit used work)
    (hused : used' ≤ used) : SumsFit used' work :=
  ⟨h.each, h.all.mono (TokenUsage.add_le_add hused (TokenUsage.le_refl _))⟩

namespace Project

/-- **What comes of some files is what comes of them among all.** The induction is on the files, from
two trees that tests have left: after the tests of all files before, and of some. -/
theorem visitsFrom_isolated (hc : LeavesTree c) (hs : Stateless c) (hsep : Separate p t files)
    (keep : Path → Bool) : ∀ {rest : List Path} {used used' : TokenUsage} {s u : FileTree × σ},
    rest ⊆ files → GrownBy p files t s.1 → GrownBy p files t u.1 → used' ≤ used →
      SumsFit used (p.workFrom c index rest s) →
      SumsFit used' (p.workFrom c index (rest.filter keep) u) ∧
        (p.visitsFrom c index (rest.filter keep) u).map Visit.trace =
          ((p.visitsFrom c index rest s).filter fun v => keep v.file).map Visit.trace
  | [], used, used', s, u, _, _, _, hused, hfits => ⟨hfits.mono hused, rfl⟩
  | f :: rest, used, used', s, u, hsub, hgs, hgu, hused, hfits => by
    obtain ⟨hf, hrest⟩ := List.cons_subset.mp hsub
    have htokens := processFile_tokens p c index f s
    rw [workFrom, sumsFit_cons] at hfits
    obtain ⟨hfirst, hmore⟩ := hfits
    cases hfile : p.processFile c index f s with
    | error e =>
      cases e
      rw [hfile] at htokens
      exact absurd hfirst htokens
    | ok processed =>
      obtain ⟨o, spent, s'⟩ := processed
      simp only [hfile] at hmore
      obtain ⟨u', hfile', hcalls, hwritten, hgs', hgu'⟩ :=
        processFile_isolated hc hs hsep hf hgs hgu hfile
      rw [visitsFrom_cons hfile]
      cases hkeep : keep f with
      | true =>
        obtain ⟨hsums, htraces⟩ := visitsFrom_isolated hc hs hsep keep hrest hgs' hgu'
          (TokenUsage.add_le_add hused (TokenUsage.le_refl _)) hmore
        simp only [List.filter_cons, hkeep, if_true, List.map_cons]
        rw [workFrom, visitsFrom_cons hfile', sumsFit_cons, hcalls, hfile', List.map_cons,
          htraces, Visit.trace, Visit.trace, hwritten]
        exact ⟨⟨hfirst, hsums⟩, rfl⟩
      | false =>
        simp only [List.filter_cons, hkeep, Bool.false_eq_true, if_false]
        exact visitsFrom_isolated hc hs hsep keep hrest hgs' hgu
          (TokenUsage.le_trans hused (TokenUsage.le_add_right _ _)) hmore

/-- There is an outcome for every file, in order. -/
theorem processAll_files : ∀ {files : List Path} {used : TokenUsage} {s s' : FileTree × σ}
    {report : RunReport} {events : List Progress},
    p.processAll c index files used s = .ok (report, events, s') →
      report.files.map (·.file) = files.map p.display
  | [], used, s, s', report, events, h => by
    simp only [processAll, Except.ok.injEq, Prod.mk.injEq] at h
    rw [← h.1]
    rfl
  | f :: files, used, s, s', report, events, h => by
    obtain ⟨o, spent, s₁, used', rest, events', hfile, hrest, hfiles, -⟩ := processAll_cons h
    rw [hfiles, List.map_cons, List.map_cons, processFile_file hfile, processAll_files hrest]

/-- The report of a run is about every source file. -/
theorem run_files {only : Option Glob.Pattern} {s s' : FileTree × σ} {report : RunReport}
    {events : List Progress} (h : p.run c only s = .ok (report, events, s')) :
    report.files.map (·.file) = (p.sources s.1 only).map p.display := by
  have hrunning := run_running p c only s
  rw [h] at hrunning
  cases hrunning with
  | reported _ hall => exact processAll_files hall

theorem file_of_mem_visitsFrom {v : Visit σ} : ∀ {files : List Path} {s : FileTree × σ},
    v ∈ p.visitsFrom c index files s → v.outcome.file = p.display v.file
  | [], _, h => absurd h List.not_mem_nil
  | f :: files, s, h => by
    rw [visitsFrom] at h
    cases hfile : p.processFile c index f s with
    | error e =>
      rw [hfile] at h
      exact absurd h List.not_mem_nil
    | ok processed =>
      obtain ⟨o, spent, s'⟩ := processed
      rw [hfile] at h
      rcases List.mem_cons.mp h with rfl | h
      · exact processFile_file hfile
      · exact file_of_mem_visitsFrom h

end Project

/-- A project, collaborators and a state for which the files are to be independent. -/
structure Independent (p : Project) (c : Collaborators (FileTree × σ)) (s : FileTree × σ) :
    Prop where
  wellFormed : s.1.WellFormed
  suffix : '/' ∉ p.config.project.testSuffix.toList
  stateless : Stateless c
  leaves : LeavesTree c
  indexed : ∃ index, p.index s.1 = .ok index
  fits : SumsFit 0 (p.work c none s)
  sources : NoTestOver p s.1 (p.allSources s.1)

/-- The files of a run are isolated from one another. -/
structure FilesIsolated (p : Project) (c : Collaborators (FileTree × σ)) (s : FileTree × σ) :
    Prop where
  /-- A run gives one outcome for each file, in order. -/
  complete : ∀ only, ∃ report events s', p.run c only s = .ok (report, events, s') ∧
    report.files.map (·.file) = (p.sources s.1 only).map p.display ∧
    report.files = (p.visits c only s).map (·.outcome)
  /-- The outcomes of a run over some files are those of the run over all, for these files. -/
  restricted : ∀ pattern report events s' part events' s'',
    p.run c none s = .ok (report, events, s') →
    p.run c (some pattern) s = .ok (part, events', s'') →
      part.files = report.files.filter fun o => pattern.isMatch o.file
  /-- The same was asked and answered for each of them, and the same test written. -/
  traces : ∀ pattern, (p.visits c (some pattern) s).map Visit.trace =
    ((p.visits c none s).filter fun v => pattern.isMatch v.outcome.file).map Visit.trace

namespace Project

/-- **The files of a run are isolated from one another**, if no `..` of the test root leads back from
where nothing is, and no part of a package is a path from the top. -/
theorem run_filesIsolated {s : FileTree × σ} (h : Independent p c s)
    (hback : NoWayBack s.1 (pathParts p.testRoot))
    (hpackages : RelativePackages s.1 (p.allSources s.1)) : FilesIsolated p c s := by
  obtain ⟨index, hindex⟩ := h.indexed
  have hsep : Separate p s.1 (p.allSources s.1) :=
    ⟨h.wellFormed, h.suffix, fun f hf => hasFile_of_mem_discover hf, h.sources, hback, hpackages⟩
  have hwork (only : Option Glob.Pattern) :
      p.work c only s = p.workFrom c index (p.sources s.1 only) s := by
    rw [work, hindex]
  have hvisits (only : Option Glob.Pattern) :
      p.visits c only s = p.visitsFrom c index (p.sources s.1 only) s := by
    rw [visits, hindex]
  have hall := h.fits
  rw [hwork] at hall
  have hsome (pattern : Glob.Pattern) := visitsFrom_isolated h.leaves h.stateless hsep
    (fun f => pattern.isMatch (p.display f)) (List.Subset.refl _) (.refl h.wellFormed)
    (.refl h.wellFormed) (TokenUsage.le_refl 0) hall
  have hfits (only : Option Glob.Pattern) : SumsFit 0 (p.work c only s) := by
    cases only with
    | none => exact h.fits
    | some pattern =>
      rw [hwork]
      exact (hsome pattern).1
  have htraces (pattern : Glob.Pattern) : (p.visits c (some pattern) s).map Visit.trace =
      ((p.visits c none s).filter fun v => pattern.isMatch v.outcome.file).map Visit.trace := by
    rw [hvisits, hvisits]
    refine (hsome pattern).2.trans (congrArg _ (List.filter_congr fun v hv => ?_))
    rw [file_of_mem_visitsFrom hv]
  have hrun (only : Option Glob.Pattern) {report : RunReport} {events : List Progress}
      {s' : FileTree × σ} (hr : p.run c only s = .ok (report, events, s')) :
      report.files = (p.visits c only s).map (·.outcome) := by
    obtain ⟨index', files, events', hv, hp⟩ := run_processAll hr
    rw [hv, processAll_visits hp]
  refine ⟨fun only => ?_, ?_, htraces⟩
  · obtain ⟨report, events, events', s', hr, hp, -⟩ := run_of_sumsFit hindex (hfits only)
    exact ⟨report, events, s', hr, processAll_files hp, hrun only hr⟩
  · intro pattern report events s' part events' s'' hr hr'
    have houtcomes := congrArg (List.map Trace.outcome) (htraces pattern)
    rw [List.map_map, List.map_map] at houtcomes
    rw [hrun _ hr, hrun _ hr', List.filter_map]
    exact houtcomes

end Project

/-! ### Where files are isolated, and where not -/

theorem stateless_cart : Stateless cartCollaborators :=
  ⟨fun _ _ _ => rfl, fun _ _ _ => rfl⟩

theorem indexed_of_isSome (h : (p.index t).toOption.isSome = true) :
    ∃ index, p.index t = .ok index := by
  cases hindex : p.index t with
  | error e =>
    rw [hindex] at h
    cases h
  | ok index => exact ⟨index, rfl⟩

theorem independent_shop : Independent shopProject cartCollaborators (shopTree, ()) where
  wellFormed := .of_entries (by decide +kernel)
  suffix := by decide
  stateless := stateless_cart
  leaves := leavesTree_cart
  indexed := indexed_of_isSome checks_shop.1
  fits := checks_shop.2.1
  sources := checks_shop.2.2

/-- The two files of a shop, one with a test and one without. -/
theorem run_filesIsolated_shop :
    let s := (shopTree, ())
    Independent shopProject cartCollaborators s ∧
      NoWayBack s.1 (pathParts shopProject.testRoot) ∧
      RelativePackages s.1 (shopProject.allSources s.1) ∧
      FilesIsolated shopProject cartCollaborators s := by
  have hback : NoWayBack shopTree (pathParts shopProject.testRoot) :=
    noWayBack_of_down (by decide +kernel)
  have hpackages : RelativePackages shopTree (shopProject.allSources shopTree) := by
    rw [allSources_shopProject]
    decide +kernel
  exact ⟨independent_shop, hback, hpackages,
    Project.run_filesIsolated independent_shop hback hpackages⟩

theorem FilesIsolated.outcomes {s : FileTree × σ} (h : FilesIsolated p c s)
    (pattern : Glob.Pattern) : (p.visits c (some pattern) s).map (·.outcome) =
      ((p.visits c none s).map (·.outcome)).filter fun o => pattern.isMatch o.file := by
  obtain ⟨report, events, s', hrun, -, hfiles⟩ := h.complete none
  obtain ⟨part, events', s'', hrun', -, hfiles'⟩ := h.complete (some pattern)
  rw [← hfiles, ← hfiles']
  exact h.restricted pattern report events s' part events' s'' hrun hrun'

/-- A project with two classes, whose tests go to the given place. -/
def pairProject (testRoot : Path) : Project :=
  ⟨⟨"/r"⟩, { project :=
    { sourceRoot := ⟨"s"⟩, testRoot, includePatterns := ["A.java", "B.java"],
      excludePatterns := [] } }⟩

/-- The sources of the two classes, the first one with the given text, and a file beside them. -/
def pairTree (first : String) : FileTree :=
  ⟨[(["r"], .directory), (["r", "f"], .file "".toUTF8), (["r", "s"], .directory),
    (["r", "s", "A.java"], .file first.toUTF8),
    (["r", "s", "B.java"], .file "class B \x7b\x7d".toUTF8)]⟩

theorem wellFormed_pairTree (first : String) : (pairTree first).WellFormed := by
  refine WellFormed.of_entries fun e he => ?_
  simp only [pairTree, List.mem_cons, List.not_mem_nil, or_false] at he
  rcases he with rfl | rfl | rfl | rfl | rfl <;> rfl

/-- The second class only. -/
def secondOnly : Glob.Pattern := ⟨"B.java".toList.map .char⟩

/-- What a run over the second class gives is not what a run over both gives for it. -/
def TellsApart (p : Project) (t : FileTree) : Prop :=
  (p.visits cartCollaborators (some secondOnly) (t, ())).map (·.outcome) ≠
    ((p.visits cartCollaborators none (t, ())).map (·.outcome)).filter fun o =>
      secondOnly.isMatch o.file

instance (p : Project) (t : FileTree) : Decidable (TellsApart p t) :=
  inferInstanceAs (Decidable (_ ≠ _))

/-- The tests go below a file, by way of a directory that is not there. -/
def backProject : Project := pairProject ⟨"m/../f/x"⟩

def backTree : FileTree := pairTree "class A \x7b\x7d"

theorem allSources_backProject :
    backProject.allSources backTree = [⟨"/r/s/A.java"⟩, ⟨"/r/s/B.java"⟩] :=
  discover_of_ordered (by decide +kernel) (by decide +kernel)

/-- There is already something for the second class alone, and after the first one no directory. -/
theorem checks_back : (backProject.index backTree).toOption.isSome = true ∧
    SumsFit 0 (backProject.work cartCollaborators none (backTree, ())) ∧
    NoTestOver backProject backTree (backProject.allSources backTree) ∧
    RelativePackages backTree (backProject.allSources backTree) ∧
    TellsApart backProject backTree := by
  unfold TellsApart Project.visits Project.work Project.index Project.sources
  simp only [allSources_backProject]
  decide +kernel

/-- The tests go to below where the test of the first class goes. -/
def outProject : Project := pairProject ⟨"g/*/b/ATest.java"⟩

def outTree : FileTree := pairTree "package a./*./r/g/*/b; class A \x7b\x7d"

theorem allSources_outProject :
    outProject.allSources outTree = [⟨"/r/s/A.java"⟩, ⟨"/r/s/B.java"⟩] :=
  discover_of_ordered (by decide +kernel) (by decide +kernel)

/-- The test of the second class is generated alone, and cannot be written after the first one. -/
theorem checks_out : (outProject.index outTree).toOption.isSome = true ∧
    SumsFit 0 (outProject.work cartCollaborators none (outTree, ())) ∧
    NoTestOver outProject outTree (outProject.allSources outTree) ∧
    TellsApart outProject outTree := by
  unfold TellsApart Project.visits Project.work Project.index Project.sources
  simp only [allSources_outProject]
  decide +kernel

theorem independent_pair {testRoot : Path} {first : String}
    (hindexed : ((pairProject testRoot).index (pairTree first)).toOption.isSome = true)
    (hfits : SumsFit 0 ((pairProject testRoot).work cartCollaborators none (pairTree first, ())))
    (hsources : NoTestOver (pairProject testRoot) (pairTree first)
      ((pairProject testRoot).allSources (pairTree first))) :
    Independent (pairProject testRoot) cartCollaborators (pairTree first, ()) where
  wellFormed := wellFormed_pairTree first
  suffix := by
    change '/' ∉ "Test".toList
    decide
  stateless := stateless_cart
  leaves := leavesTree_cart
  indexed := indexed_of_isSome hindexed
  fits := hfits
  sources := hsources

/-- **Neither of the two assumptions can be left out.** A `..` behind a missing directory makes the
second error another one than without the first file; and a comment in a package, read as a path from
the top, puts the first test in the way of the second. -/
theorem not_filesIsolated :
    (Independent backProject cartCollaborators (backTree, ()) ∧
        RelativePackages backTree (backProject.allSources backTree) ∧
        ¬FilesIsolated backProject cartCollaborators (backTree, ())) ∧
      (Independent outProject cartCollaborators (outTree, ()) ∧
        NoWayBack outTree (pathParts outProject.testRoot) ∧
        ¬FilesIsolated outProject cartCollaborators (outTree, ())) := by
  refine ⟨?_, ?_⟩
  · obtain ⟨hindexed, hfits, hsources, hpackages, hapart⟩ := checks_back
    exact ⟨independent_pair hindexed hfits hsources, hpackages,
      fun h => hapart (h.outcomes secondOnly)⟩
  · obtain ⟨hindexed, hfits, hsources, hapart⟩ := checks_out
    have hback : NoWayBack outTree (pathParts outProject.testRoot) :=
      noWayBack_of_down (by decide +kernel)
    exact ⟨independent_pair hindexed hfits hsources, hback,
      fun h => hapart (h.outcomes secondOnly)⟩

end Testsmith
