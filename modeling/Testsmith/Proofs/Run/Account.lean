/-
# What a report says of the calls

The report of a run gives the tokens used and, for each file, the number of attempts. It takes both
from the end of the repair run for the file. A repair run that the verifier could not be run in has
no such end: for its file the report counts nothing, however often the provider was called before
(`processFile_account`). So the report covers the calls of a run exactly when the work on no file
stopped there (`run_coversCalls_iff`).

Key definitions: `countedAttempts`, `CoversCalls`.
Key theorems: `processFile_account`, `processAll_account`, `run_coversCalls_iff`.
-/
import Testsmith.Proofs.Run.Sums
import Testsmith.Proofs.Run.Writes

namespace Testsmith

open FileTree Repair

variable {σ : Type}

namespace Repair

/-- The number of attempts that counts for a file with these calls. -/
def countedAttempts (calls : List Call) : Nat :=
  if calls.any Call.failed then 0 else calls.countP Call.isGenerate

variable {τ : Type} {c : Collaborators τ} {j : Job}

/-- A run that comes to its end has a record for every call of the provider. -/
theorem outcome_generated {s s' : τ} {o : Outcome} (h : outcome c j s = (.ok o, s')) :
    (callsFrom c j j.stepBound .start s).countP Call.isGenerate = o.attempts.length := by
  obtain ⟨last, hlast, rfl⟩ := reached_callsFrom .start h
  exact (reached_counted hlast).generated

/-- A run begins with a call of the provider, whatever follows. -/
theorem generated_pos (s : τ) :
    0 < (callsFrom c j j.stepBound .start s).countP Call.isGenerate := by
  have hbound : j.stepBound = j.stepBound - 1 + 1 := by
    have := one_le_bound j
    simp only [Job.stepBound]
    omega
  have hfirst : 0 < (callsOf c j .start s).countP Call.isGenerate := by
    simp [callsOf, Run.start, Call.isGenerate]
  rw [hbound, callsFrom, if_neg (by simp [Run.start, State.isTerminal])]
  split
  · rw [List.countP_append]
    exact Nat.add_pos_left hfirst _
  · exact hfirst

end Repair

/-- The work on the file stopped since the verifier could not be run. -/
def FileStatus.isUnverified : FileStatus → Bool
  | .failed (.verify _) => true
  | _ => false

namespace Project

variable {p : Project} {c : Collaborators (FileTree × σ)} {index : SymbolIndex}

theorem conclude_isUnverified (result : Except RepairError Artifact) (t : FileTree) :
    (conclude result t).1.isUnverified = false := by
  cases result with
  | error e => rfl
  | ok a =>
    rw [conclude.eq_def]
    dsimp only
    split <;> rfl

-- This stays closed where the cases of `Processing` compare outcomes field by field.
attribute [local irreducible] display

/-- **What the report says of a file, by the calls for it.** -/
theorem processFile_account {file : Path} {s s' : FileTree × σ} {o : FileOutcome}
    {spent : TokenUsage} (h : p.processFile c index file s = .ok (o, spent, s')) :
    spent = counted (p.callsOn c index file s) ∧
      o.attempts = countedAttempts (p.callsOn c index file s) ∧
      o.status.isUnverified = (p.callsOn c index file s).any Call.failed ∧
      (o.status.isUnverified = true → 0 < (p.callsOn c index file s).countP Call.isGenerate) := by
  have htokens := processFile_tokens p c index file s
  have hcases := processFile_processing p c index file s
  rw [h] at htokens hcases
  refine ⟨htokens.2, ?_⟩
  generalize p.callsOn c index file s = calls at hcases
  cases hcases with
  | unread _ => exact ⟨rfl, rfl, fun hnot => by cases hnot⟩
  | skipped _ _ => exact ⟨rfl, rfl, fun hnot => by cases hnot⟩
  | unbuilt _ hrun =>
    obtain ⟨-, hfailed⟩ := outcome_tokens hrun
    exact ⟨(if_pos hfailed).symm, hfailed.symm, fun _ => generated_pos s⟩
  | @ended source j o s' _ hrun =>
    obtain ⟨-, hfailed, -⟩ := outcome_tokens hrun
    have hstatus := conclude_isUnverified o.result s'.1
    refine ⟨?_, hstatus.trans hfailed.symm, fun hnot => ?_⟩
    · rw [countedAttempts, hfailed, if_neg (by simp), outcome_generated hrun, outcomeOf]
    · rw [outcomeOf, hstatus] at hnot
      cases hnot

end Project

/-- What a report says of visits: for each of them, what counts. -/
structure Visit.Accounted (v : Visit σ) : Prop where
  attempts : v.outcome.attempts = countedAttempts v.calls
  unverified : v.outcome.status.isUnverified = v.calls.any Call.failed
  generated : v.outcome.status.isUnverified = true → 0 < v.calls.countP Call.isGenerate

namespace Project

variable {p : Project} {c : Collaborators (FileTree × σ)} {index : SymbolIndex}

/-- The tokens of a report are those that count, after the ones used before. -/
theorem processAll_account : ∀ {files : List Path} {used : TokenUsage} {s s' : FileTree × σ}
    {report : RunReport} {events : List Progress},
    p.processAll c index files used s = .ok (report, events, s') →
      report.usage = used + ((p.visitsFrom c index files s).map fun v => counted v.calls).sum ∧
        ∀ v ∈ p.visitsFrom c index files s, v.Accounted
  | [], used, s, s', report, events, h => by
    simp only [processAll, Except.ok.injEq, Prod.mk.injEq] at h
    rw [← h.1]
    exact ⟨(add_zero used).symm, fun v hv => absurd hv List.not_mem_nil⟩
  | file :: files, used, s, s', report, events, h => by
    obtain ⟨o, spent, s₁, used', rest, events', hfile, hrest, -, husage, hsum⟩ :=
      processAll_cons h
    obtain ⟨hspent, haccount⟩ := processFile_account hfile
    obtain ⟨hmore, hothers⟩ := processAll_account hrest
    have hused : used' = used + spent := by
      obtain ⟨hinput, houtput, -⟩ := TokenUsage.add?_eq_some_iff.mp hsum
      exact congrArg₂ TokenUsage.mk hinput houtput
    rw [visitsFrom_cons hfile]
    refine ⟨?_, List.forall_mem_cons.mpr ⟨⟨haccount.1, haccount.2.1, haccount.2.2⟩, hothers⟩⟩
    rw [husage, hmore, hused, hspent, List.map_cons, List.sum_cons, add_assoc]

end Project

/-- The report tells of every call: the tokens of all answers, and for each file how often the
provider was called. -/
structure CoversCalls (report : RunReport) (visits : List (Visit σ)) : Prop where
  files : report.files = visits.map (·.outcome)
  usage : report.usage = (visits.map fun v => totalUsage v.calls).sum
  attempts : ∀ v ∈ visits, v.outcome.attempts = v.calls.countP Call.isGenerate

/-- The report tells of the calls for the files that the verifier could be run for. -/
structure CoversVerified (report : RunReport) (visits : List (Visit σ)) : Prop where
  files : report.files = visits.map (·.outcome)
  usage : report.usage = ((visits.filter fun v => !v.outcome.status.isUnverified).map
    fun v => totalUsage v.calls).sum
  attempts : ∀ v ∈ visits, v.outcome.attempts =
    if v.outcome.status.isUnverified then 0 else v.calls.countP Call.isGenerate

theorem sum_counted : ∀ {visits : List (Visit σ)}, (∀ v ∈ visits, v.Accounted) →
    (visits.map fun v => counted v.calls).sum =
      ((visits.filter fun v => !v.outcome.status.isUnverified).map
        fun v => totalUsage v.calls).sum
  | [], _ => rfl
  | v :: visits, h => by
    rw [List.forall_mem_cons] at h
    have hmore := sum_counted h.2
    rw [List.map_cons, List.sum_cons, hmore]
    cases hv : v.outcome.status.isUnverified with
    | true =>
      rw [List.filter_cons_of_neg (by simp [hv]),
        counted_of_failed (h.1.unverified.symm.trans hv), zero_add]
    | false =>
      rw [List.filter_cons_of_pos (by simp [hv]),
        counted_of_not_failed (h.1.unverified.symm.trans hv), List.map_cons, List.sum_cons]

namespace Project

variable {p : Project} {c : Collaborators (FileTree × σ)}

/-- **A report covers all calls exactly when the verifier could be run for every file.** It always
covers those for the other files. -/
theorem run_coversCalls_iff (p : Project) (c : Collaborators (FileTree × σ))
    {only : Option Glob.Pattern} {s s' : FileTree × σ} {report : RunReport}
    {events : List Progress} (h : p.run c only s = .ok (report, events, s')) :
    CoversVerified report (p.visits c only s) ∧
      (CoversCalls report (p.visits c only s) ↔
        ∀ o ∈ report.files, o.status.isUnverified = false) := by
  obtain ⟨index, files, events', hvisits, hall⟩ := run_processAll h
  rw [hvisits]
  obtain ⟨husage, haccount⟩ := processAll_account hall
  have hfiles := processAll_visits hall
  generalize p.visitsFrom c index files s = visits at husage haccount hfiles
  rw [show TokenUsage.zero = 0 from rfl, zero_add, sum_counted haccount] at husage
  have hverified : CoversVerified report visits := by
    refine ⟨hfiles, husage, fun v hv => ?_⟩
    rw [(haccount v hv).attempts, countedAttempts, (haccount v hv).unverified]
  refine ⟨hverified, fun hcovers o ho => ?_, fun hrun => ?_⟩
  · rw [hfiles] at ho
    obtain ⟨v, hv, rfl⟩ := List.mem_map.mp ho
    cases hunverified : v.outcome.status.isUnverified with
    | false => rfl
    | true =>
      have hpos := (haccount v hv).generated hunverified
      have hnone := hverified.attempts v hv
      rw [hunverified, if_pos rfl, hcovers.attempts v hv] at hnone
      omega
  · have hrun' : ∀ v ∈ visits, v.outcome.status.isUnverified = false := by
      intro v hv
      refine hrun v.outcome ?_
      rw [hfiles]
      exact List.mem_map_of_mem hv
    refine ⟨hfiles, ?_, fun v hv => ?_⟩
    · rw [hverified.usage, List.filter_eq_self.mpr fun v hv => by rw [hrun' v hv]; rfl]
    · rw [hverified.attempts v hv, hrun' v hv, if_neg (by simp)]

end Project

/-- A provider that always writes the same test, and a verifier that refuses one test before it
approves of any. -/
def secondTryCollaborators : Collaborators (FileTree × Bool) where
  generate _ s := (.ok ⟨"class CartTest \x7b\x7d", ⟨100, 20⟩⟩, s)
  verify _ s := (.ok ⟨s.2, "cannot find symbol"⟩, s.1, true)

/-- Two attempts at a file, both of which count. -/
theorem coversCalls_second_try : ∃ report events s',
    cartProject.run secondTryCollaborators none (cartTree, false) = .ok (report, events, s') ∧
      report.usage = ⟨200, 40⟩ ∧ report.files.map (·.attempts) = [2] ∧
      CoversVerified report (cartProject.visits secondTryCollaborators none (cartTree, false)) ∧
      (CoversCalls report (cartProject.visits secondTryCollaborators none (cartTree, false)) ↔
        ∀ o ∈ report.files, o.status.isUnverified = false) := by
  have hcounts : (cartProject.run secondTryCollaborators none (cartTree, false)).toOption.map
      (fun result => (result.1.usage, result.1.files.map (·.attempts))) =
        some (⟨200, 40⟩, [2]) := by
    rw [Project.run, Project.index, Project.sources]
    simp only [allSources_cartProject]
    decide +kernel
  cases hrun : cartProject.run secondTryCollaborators none (cartTree, false) with
  | error e =>
    rw [hrun] at hcounts
    cases hcounts
  | ok result =>
    obtain ⟨report, events, s'⟩ := result
    rw [hrun] at hcounts
    obtain ⟨husage, hattempts⟩ := Prod.mk.inj (Option.some.inj hcounts)
    exact ⟨report, events, s', rfl, husage, hattempts,
      Project.run_coversCalls_iff cartProject secondTryCollaborators hrun⟩

/-- A provider that always writes the same test, and a verifier that cannot be run. -/
def unbuildableCollaborators : Collaborators (FileTree × Unit) where
  generate _ s := (.ok ⟨"class CartTest \x7b\x7d", ⟨100, 20⟩⟩, s)
  verify _ s := (.error (.spawn "no such command"), s)

/-- A report that tells of no attempt and no tokens, though the provider was called and answered. -/
theorem not_coversCalls_unbuildable : ∃ report events s',
    cartProject.run unbuildableCollaborators none (cartTree, ()) = .ok (report, events, s') ∧
      report.usage = 0 ∧ report.files.map (·.attempts) = [0] ∧
      (cartProject.visits unbuildableCollaborators none (cartTree, ())).map
        (fun v => (totalUsage v.calls, v.calls.countP Call.isGenerate)) = [(⟨100, 20⟩, 1)] ∧
      ¬CoversCalls report (cartProject.visits unbuildableCollaborators none (cartTree, ())) := by
  have hcounts : (cartProject.run unbuildableCollaborators none (cartTree, ())).toOption.map
        (fun result => (result.1.usage, result.1.files.map (·.attempts))) = some (0, [0]) ∧
      (cartProject.visits unbuildableCollaborators none (cartTree, ())).map
        (fun v => (totalUsage v.calls, v.calls.countP Call.isGenerate)) = [(⟨100, 20⟩, 1)] := by
    rw [Project.run, Project.visits, Project.index, Project.sources]
    simp only [allSources_cartProject]
    decide +kernel
  obtain ⟨hreport, hcalls⟩ := hcounts
  cases hrun : cartProject.run unbuildableCollaborators none (cartTree, ()) with
  | error e =>
    rw [hrun] at hreport
    cases hreport
  | ok result =>
    obtain ⟨report, events, s'⟩ := result
    rw [hrun] at hreport
    obtain ⟨husage, hattempts⟩ := Prod.mk.inj (Option.some.inj hreport)
    refine ⟨report, events, s', rfl, husage, hattempts, hcalls, fun hcovers => ?_⟩
    have htokens := hcovers.usage
    have hsum := congrArg (fun counts => (counts.map Prod.fst).sum) hcalls
    simp only [List.map_map, Function.comp_def] at hsum
    rw [hsum] at htokens
    exact absurd (husage.symm.trans htokens) (by decide)

end Testsmith
