/-
# Tokens of a run

The answers for one file are summed up while it is worked on, and the sum counts for the run unless
the verifier could not be run for the file (`counted`). A run gives a report exactly when every sum
on the way fits: those for single files and the one for the run (`processAll_ok_iff`).

Key definitions: `counted`, `Project.workFrom`, `Project.work`, `SumsFit`.
Key theorems: `outcome_tokens`, `processFile_tokens`, `processAll_ok_iff`, `run_of_sumsFit`.
-/
import Testsmith.Proofs.Repair.Bound
import Testsmith.Proofs.Run.Visits

namespace Testsmith

open FileTree Repair

variable {σ : Type}

namespace Repair

/-- The verifier could not be run. -/
def Call.failed : Call → Bool
  | .verify _ (.error _) => true
  | _ => false

/-- The tokens that count for a file with these calls. -/
def counted (calls : List Call) : TokenUsage :=
  if calls.any Call.failed then 0 else totalUsage calls

theorem counted_of_failed {calls : List Call} (h : calls.any Call.failed = true) :
    counted calls = 0 := if_pos h

theorem counted_of_not_failed {calls : List Call} (h : calls.any Call.failed = false) :
    counted calls = totalUsage calls := if_neg (by simp [h])

variable {τ : Type} {c : Collaborators τ} {j : Job}

/-- A step gives an error exactly when the verifier could not be run in it. -/
theorem failed_step {r : Run} {s s' : τ} {next : Step} (h : step c j r s = (.ok next, s')) :
    (callsOf c j r s).any Call.failed = next.error.isSome := by
  have ht := step_transition h
  generalize callsOf c j r s = calls at ht
  cases ht <;> rfl

/-- What the tokens of the calls of a repair run tell about its end. -/
def Accounts (calls : List Call) : Except Halt Outcome → Prop
  | .ok o => (totalUsage calls).Fits ∧ calls.any Call.failed = false ∧ o.usage = totalUsage calls
  | .error (.verify _) => (totalUsage calls).Fits ∧ calls.any Call.failed = true
  | .error .overflow => ¬(totalUsage calls).Fits

theorem runFrom_accounts {s₀ : τ} : ∀ {bound : Nat} {past : List Call} {r : Run} {s : τ},
    Reached c j s₀ past r s → past.any Call.failed = false →
      Accounts (past ++ callsFrom c j bound r s) (runFrom c j bound r s).1 := by
  have ended {past : List Call} {r : Run} {s : τ} (hr : Reached c j s₀ past r s)
      (hpast : past.any Call.failed = false) : Accounts past (.ok r.finish) := by
    have hfits := reached_usage_fits hr
    rw [reached_usage hr] at hfits
    exact ⟨hfits, hpast, reached_usage hr⟩
  intro bound
  induction bound with
  | zero =>
    intro past r s hr hpast
    rw [callsFrom, List.append_nil]
    exact ended hr hpast
  | succ bound ih =>
    intro past r s hr hpast
    rw [callsFrom, runFrom]
    split
    · rw [List.append_nil]
      exact ended hr hpast
    · cases hstep : step c j r s with
      | mk result s' =>
        rcases result with e | ⟨next, error⟩
        · cases e
          obtain ⟨k, reply, -, hcalls, hlong⟩ := step_overflow hstep
          rw [reached_usage hr] at hlong
          dsimp only [Accounts]
          rw [hcalls, totalUsage_append]
          exact hlong
        · have hfailed := failed_step hstep
          have hnext := hr.step hstep
          cases error with
          | some e =>
            have hfits := reached_usage_fits hnext
            rw [reached_usage hnext] at hfits
            refine ⟨hfits, ?_⟩
            rw [List.any_append, hfailed]
            simp
          | none =>
            dsimp only
            rw [← List.append_assoc]
            refine ih hnext ?_
            rw [List.any_append, hpast, hfailed]
            rfl

/-- **A repair run ends by what its calls take.** -/
theorem outcome_tokens {s s' : τ} {result : Except Halt Outcome}
    (h : outcome c j s = (result, s')) :
    Accounts (callsFrom c j j.stepBound .start s) result := by
  have haccounts : Accounts ([] ++ callsFrom c j j.stepBound .start s)
      (runFrom c j j.stepBound .start s).1 := runFrom_accounts .start rfl
  rw [outcome] at h
  rwa [h] at haccounts

end Repair

namespace Project

variable {p : Project} {c : Collaborators (FileTree × σ)} {index : SymbolIndex}

variable (p c index) in
/-- The work on a file ends the program exactly when the tokens of the answers for it do not fit, and
else takes those that count. -/
theorem processFile_tokens (file : Path) (s : FileTree × σ) :
    match p.processFile c index file s with
    | .error .tokens => ¬(totalUsage (p.callsOn c index file s)).Fits
    | .ok (_, spent, _) => (totalUsage (p.callsOn c index file s)).Fits ∧
        spent = counted (p.callsOn c index file s) := by
  have hcases := processFile_processing p c index file s
  generalize p.processFile c index file s = result at hcases ⊢
  generalize p.callsOn c index file s = calls at hcases ⊢
  have hnone : (totalUsage []).Fits := by decide
  cases hcases with
  | unread _ => exact ⟨hnone, rfl⟩
  | skipped _ _ => exact ⟨hnone, rfl⟩
  | overflowed _ hrun => exact outcome_tokens hrun
  | unbuilt _ hrun =>
    obtain ⟨hfits, hfailed⟩ := outcome_tokens hrun
    exact ⟨hfits, (counted_of_failed hfailed).symm⟩
  | ended _ hrun =>
    obtain ⟨hfits, hfailed, husage⟩ := outcome_tokens hrun
    exact ⟨hfits, by rw [husage, counted_of_not_failed hfailed]⟩

/-- The calls for files one after another, up to a file that ends the program. -/
def workFrom (p : Project) (c : Collaborators (FileTree × σ)) (index : SymbolIndex) :
    List Path → FileTree × σ → List (List Call)
  | [], _ => []
  | file :: files, s =>
    p.callsOn c index file s ::
      match p.processFile c index file s with
      | .error _ => []
      | .ok (_, _, s') => workFrom p c index files s'

/-- The calls of a run, for one file after another. -/
def work (p : Project) (c : Collaborators (FileTree × σ)) (only : Option Glob.Pattern)
    (s : FileTree × σ) : List (List Call) :=
  match p.index s.1 with
  | .error _ => []
  | .ok index => p.workFrom c index (p.sources s.1 only) s

end Project

/-- Every sum of tokens fits, from those used before: that of the answers for each file, and that of
what counts for all of them. -/
structure SumsFit (used : TokenUsage) (work : List (List Call)) : Prop where
  each : ∀ calls ∈ work, (totalUsage calls).Fits
  all : (used + (work.map counted).sum).Fits

instance (used : TokenUsage) (work : List (List Call)) : Decidable (SumsFit used work) :=
  decidable_of_iff ((∀ calls ∈ work, (totalUsage calls).Fits) ∧
    (used + (work.map counted).sum).Fits) ⟨fun h => ⟨h.1, h.2⟩, fun h => ⟨h.each, h.all⟩⟩

theorem sumsFit_cons {used : TokenUsage} {calls : List Call} {work : List (List Call)} :
    SumsFit used (calls :: work) ↔
      (totalUsage calls).Fits ∧ SumsFit (used + counted calls) work := by
  constructor
  · intro h
    refine ⟨h.each calls List.mem_cons_self, fun calls' hc => h.each calls' ?_, ?_⟩
    · exact List.mem_cons_of_mem _ hc
    · have hall := h.all
      rwa [List.map_cons, List.sum_cons, ← add_assoc] at hall
  · rintro ⟨hfirst, h⟩
    refine ⟨fun calls' hc => ?_, ?_⟩
    · rcases List.mem_cons.mp hc with rfl | hc
      · exact hfirst
      · exact h.each calls' hc
    · rw [List.map_cons, List.sum_cons, ← add_assoc]
      exact h.all

theorem SumsFit.used {used : TokenUsage} {work : List (List Call)} (h : SumsFit used work) :
    used.Fits := h.all.mono (TokenUsage.le_add_right _ _)

namespace Project

variable {p : Project} {c : Collaborators (FileTree × σ)} {index : SymbolIndex}

/-- **Files are worked on to the end exactly when every sum of tokens fits.** -/
theorem processAll_ok_iff : ∀ {files : List Path} {used : TokenUsage} {s : FileTree × σ},
    used.Fits → ((∃ result, p.processAll c index files used s = .ok result) ↔
      SumsFit used (p.workFrom c index files s))
  | [], used, s, hused => by
    refine ⟨fun _ => ⟨by simp [workFrom], ?_⟩, fun _ => ⟨_, rfl⟩⟩
    rw [workFrom, List.map_nil, List.sum_nil, add_zero]
    exact hused
  | file :: files, used, s, hused => by
    have htokens := processFile_tokens p c index file s
    rw [workFrom, sumsFit_cons, processAll]
    cases hfile : p.processFile c index file s with
    | error e =>
      cases e
      simp only [hfile] at htokens
      simp [htokens, bind, Except.bind]
    | ok processed =>
      obtain ⟨o, spent, s'⟩ := processed
      simp only [hfile] at htokens
      obtain ⟨hfits, rfl⟩ := htokens
      simp only [hfits, true_and, bind, Except.bind]
      by_cases hsum : (used + counted (p.callsOn c index file s)).Fits
      · rw [TokenUsage.add?_of_fits hsum, ← processAll_ok_iff hsum]
        dsimp only
        cases p.processAll c index files (used + counted (p.callsOn c index file s)) s' with
        | error e => simp
        | ok result => exact ⟨fun _ => ⟨result, rfl⟩, fun _ => ⟨_, rfl⟩⟩
      · rw [TokenUsage.add?_eq_none_iff.mpr hsum]
        simp only [reduceCtorEq, exists_false, false_iff]
        exact fun h => hsum h.used

/-- A run over an index gives a report when every sum of tokens fits. -/
theorem run_of_sumsFit {only : Option Glob.Pattern} {s : FileTree × σ}
    (hindex : p.index s.1 = .ok index) (hfits : SumsFit 0 (p.work c only s)) :
    ∃ report events events' s', p.run c only s = .ok (report, events, s') ∧
      p.processAll c index (p.sources s.1 only) .zero s = .ok (report, events', s') ∧
      p.visits c only s = p.visitsFrom c index (p.sources s.1 only) s := by
  rw [work, hindex] at hfits
  have hzero : TokenUsage.zero.Fits := by decide
  obtain ⟨⟨report, events', s'⟩, hall⟩ := (processAll_ok_iff hzero).mpr hfits
  refine ⟨report, .start "generate" (p.sources s.1 only).length :: events' ++ [.finish], events', s',
    ?_, hall, ?_⟩
  · rw [run, hindex]
    simp only [hall]
  · rw [visits, hindex]

end Project

end Testsmith
