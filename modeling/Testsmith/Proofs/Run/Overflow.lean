/-
# Answers that end the program

A provider states how many tokens an answer took, and any word may stand there. The program adds the
counts up, for each file and for the run, and ends where a sum does not fit: the run gives no report
then, not even of the files that were done. This happens exactly when one of these sums is too large
(`run_endsByTokens`), which two answers are enough for (`not_reports_greedy`). As long as every count
stays so small that all answers a run can ask for fit together, it does not happen.

Key definitions: `AnswersWithin`, `Project.attemptBound`, `EndsByTokens`.
Key theorems: `generated_callsFrom_le`, `sumsFit_of_within`, `run_tokens`, `run_endsByTokens`,
`not_reports_greedy`.
-/
import Testsmith.Proofs.Run.Isolation

namespace Testsmith

open FileTree Repair

/-! ### How much the calls for one file can take -/

namespace Repair

variable {τ : Type} {c : Collaborators τ} {j : Job}

/-- No answer takes more than so many tokens, either way. -/
def AnswersWithin (c : Collaborators τ) (most : Nat) : Prop :=
  ∀ prompt s reply s', c.generate prompt s = (.ok reply, s') → reply.usage ≤ ⟨most, most⟩

/-- The provider is called at most once for each attempt allowed, also in a run that ends the
program. -/
theorem generated_callsFrom_le {s₀ : τ} : ∀ {fuel : Nat} {past : List Call} {r : Run} {s : τ},
    Reached c j s₀ past r s →
      (past ++ callsFrom c j fuel r s).countP Call.isGenerate ≤ j.bound := by
  have reached {past : List Call} {r : Run} {s : τ} (hr : Reached c j s₀ past r s) :
      past.countP Call.isGenerate ≤ j.bound := by
    rw [(reached_counted hr).generated]
    exact (reached_fits hr).bounded
  intro fuel
  induction fuel with
  | zero =>
    intro past r s hr
    rw [callsFrom, List.append_nil]
    exact reached hr
  | succ fuel ih =>
    intro past r s hr
    rw [callsFrom]
    split
    · rw [List.append_nil]
      exact reached hr
    · cases hstep : step c j r s with
      | mk result s' =>
        rcases result with e | ⟨next, _ | e⟩
        · cases e
          obtain ⟨k, reply, hk, hcalls, -⟩ := step_overflow hstep
          obtain ⟨-, hbound, hlength, -⟩ := (reached_fits hr).generating hk
          have hpast := (reached_counted hr).generated
          dsimp only
          rw [hcalls, List.countP_append, hpast]
          simp only [List.countP_singleton, Call.isGenerate, if_true]
          omega
        · dsimp only
          rw [← List.append_assoc]
          exact ih (hr.step hstep)
        · exact reached (hr.step hstep)

theorem usage_callsOf_le {most : Nat} (hc : AnswersWithin c most) (r : Run) (s : τ) :
    ∀ call ∈ callsOf c j r s, call.usage ≤ ⟨most, most⟩ := by
  intro call hcall
  rw [callsOf] at hcall
  split at hcall
  · rw [List.mem_singleton] at hcall
    rw [hcall]
    cases hanswer : c.generate (j.request.prompt r.failures) s with
    | mk answer s' =>
      cases answer with
      | error e => exact TokenUsage.zero_le _
      | ok reply => exact hc _ _ _ _ hanswer
  · rw [List.mem_singleton] at hcall
    rw [hcall]
    exact TokenUsage.zero_le _
  · exact absurd hcall List.not_mem_nil

theorem usage_callsFrom_le {most : Nat} (hc : AnswersWithin c most) : ∀ {fuel : Nat} {r : Run}
    {s : τ}, ∀ call ∈ callsFrom c j fuel r s, call.usage ≤ ⟨most, most⟩
  | 0, _, _ => fun call hcall => absurd hcall List.not_mem_nil
  | fuel + 1, r, s => by
    intro call hcall
    rw [callsFrom] at hcall
    split at hcall
    · exact absurd hcall List.not_mem_nil
    · split at hcall
      · rcases List.mem_append.mp hcall with hcall | hcall
        · exact usage_callsOf_le hc r s call hcall
        · exact usage_callsFrom_le hc call hcall
      · exact usage_callsOf_le hc r s call hcall

/-- Calls take no more than so many answers can. -/
theorem totalUsage_le {most : Nat} : ∀ {calls : List Call},
    (∀ call ∈ calls, call.usage ≤ ⟨most, most⟩) →
      totalUsage calls ≤
        ⟨calls.countP Call.isGenerate * most, calls.countP Call.isGenerate * most⟩
  | [], _ => TokenUsage.zero_le _
  | call :: calls, h => by
    rw [List.forall_mem_cons] at h
    have hmore := totalUsage_le h.2
    rw [totalUsage_cons, List.countP_cons]
    cases call with
    | generate prompt answer =>
      have hsum := TokenUsage.add_le_add h.1 hmore
      simp only [Call.isGenerate, if_true, Nat.add_mul, Nat.one_mul]
      rwa [Nat.add_comm (calls.countP Call.isGenerate * most)]
    | verify artifact answer =>
      have hnone : (Call.verify artifact answer).usage = 0 := rfl
      rw [hnone, zero_add]
      exact hmore

theorem counted_le (calls : List Call) : counted calls ≤ totalUsage calls := by
  rw [counted]
  split
  · exact TokenUsage.zero_le _
  · exact TokenUsage.le_refl _

end Repair

variable {σ : Type}

namespace Project

variable {p : Project} {c : Collaborators (FileTree × σ)} {index : SymbolIndex}

/-- The most attempts at the test of one file. -/
def attemptBound (p : Project) : Nat := max p.config.repair.maxAttempts.toNat 1

/-- What a file's calls take when no answer takes more than so much. -/
theorem totalUsage_callsOn_le {most : Nat} (hc : AnswersWithin c most) (file : Path)
    (s : FileTree × σ) :
    totalUsage (p.callsOn c index file s) ≤ ⟨p.attemptBound * most, p.attemptBound * most⟩ := by
  have hcases := processFile_processing p c index file s
  have hcallsFrom {source : String} {j : Job} (ht : Tested p index s.1 file source j) :
      totalUsage (callsFrom c j j.stepBound .start s) ≤
        ⟨p.attemptBound * most, p.attemptBound * most⟩ := by
    have hbound : j.bound = p.attemptBound := by
      rw [← ht.job]
      rfl
    have hcount : ([] ++ callsFrom c j j.stepBound .start s).countP Call.isGenerate ≤ j.bound :=
      generated_callsFrom_le .start
    rw [List.nil_append, hbound] at hcount
    have hmany := Nat.mul_le_mul_right most hcount
    exact TokenUsage.le_trans (totalUsage_le (usage_callsFrom_le hc)) ⟨hmany, hmany⟩
  generalize p.callsOn c index file s = calls at hcases ⊢
  generalize p.processFile c index file s = result at hcases
  cases hcases with
  | unread _ => exact TokenUsage.zero_le _
  | skipped _ _ => exact TokenUsage.zero_le _
  | overflowed ht _ => exact hcallsFrom ht
  | unbuilt ht _ => exact hcallsFrom ht
  | ended ht _ => exact hcallsFrom ht

theorem length_workFrom_le : ∀ (files : List Path) (s : FileTree × σ),
    (p.workFrom c index files s).length ≤ files.length
  | [], _ => Nat.le_refl 0
  | file :: files, s => by
    rw [workFrom, List.length_cons, List.length_cons]
    split
    · exact Nat.succ_le_succ (Nat.zero_le _)
    · exact Nat.succ_le_succ (length_workFrom_le files _)

theorem totalUsage_workFrom_le {most : Nat} (hc : AnswersWithin c most) : ∀ {files : List Path}
    {s : FileTree × σ}, ∀ calls ∈ p.workFrom c index files s,
      totalUsage calls ≤ ⟨p.attemptBound * most, p.attemptBound * most⟩
  | [], _ => fun calls hcalls => absurd hcalls List.not_mem_nil
  | file :: files, s => by
    intro calls hcalls
    rw [workFrom] at hcalls
    rcases List.mem_cons.mp hcalls with rfl | hcalls
    · exact totalUsage_callsOn_le hc file s
    · split at hcalls
      · exact absurd hcalls List.not_mem_nil
      · exact totalUsage_workFrom_le hc calls hcalls

end Project

/-- What counts for all files, when none of them takes more than so much. -/
theorem sum_counted_le {most : Nat} : ∀ {work : List (List Call)},
    (∀ calls ∈ work, totalUsage calls ≤ ⟨most, most⟩) →
      (work.map counted).sum ≤ ⟨work.length * most, work.length * most⟩
  | [], _ => TokenUsage.zero_le _
  | calls :: work, h => by
    rw [List.forall_mem_cons] at h
    have hfirst := TokenUsage.le_trans (counted_le calls) h.1
    have hsum := TokenUsage.add_le_add hfirst (sum_counted_le h.2)
    rw [List.map_cons, List.sum_cons, List.length_cons, Nat.add_mul, Nat.one_mul,
      Nat.add_comm (work.length * most)]
    exact hsum

theorem sumsFit_nil : SumsFit 0 [] := by decide

/-- Every sum fits when so many answers of the largest size do. -/
theorem sumsFit_of_le {most : Nat} {work : List (List Call)}
    (h : ∀ calls ∈ work, totalUsage calls ≤ ⟨most, most⟩)
    (hfits : work.length * most < countLimit) : SumsFit 0 work where
  each := by
    intro calls hcalls
    have hsome : 1 ≤ work.length := List.length_pos_of_mem hcalls
    have hone : most < countLimit :=
      calc most = 1 * most := (Nat.one_mul most).symm
        _ ≤ work.length * most := Nat.mul_le_mul_right most hsome
        _ < countLimit := hfits
    exact TokenUsage.Fits.mono ⟨hone, hone⟩ (h calls hcalls)
  all := by
    rw [zero_add]
    exact TokenUsage.Fits.mono ⟨hfits, hfits⟩ (sum_counted_le h)

/-- How the tokens of the answers decide about the end of a run. -/
structure EndsByTokens (p : Project) (c : Collaborators (FileTree × σ))
    (only : Option Glob.Pattern) (s : FileTree × σ) : Prop where
  /-- There is a report, of every source file, exactly when there is an index and every sum of
  tokens fits: those for single files and the one for the run. -/
  reports : (∃ report events s', p.run c only s = .ok (report, events, s') ∧
      report.files.map (·.file) = (p.sources s.1 only).map p.display) ↔
    (∃ index, p.index s.1 = .ok index) ∧ SumsFit 0 (p.work c only s)
  /-- The program ends in the run exactly when some sum does not fit. -/
  overflows : p.run c only s = .error .overflow ↔ ¬SumsFit 0 (p.work c only s)
  /-- No sum is too large as long as all answers that the run can ask for fit together. -/
  safe : ∀ most, AnswersWithin c most →
    (p.sources s.1 only).length * (p.attemptBound * most) < countLimit →
      SumsFit 0 (p.work c only s)

namespace Project

theorem sumsFit_of_within {p : Project} {c : Collaborators (FileTree × σ)}
    {only : Option Glob.Pattern} {s : FileTree × σ} {most : Nat} (hc : AnswersWithin c most)
    (hfits : (p.sources s.1 only).length * (p.attemptBound * most) < countLimit) :
    SumsFit 0 (p.work c only s) := by
  rw [work]
  cases p.index s.1 with
  | error e => exact sumsFit_nil
  | ok index =>
    apply sumsFit_of_le (totalUsage_workFrom_le hc)
    exact Nat.lt_of_le_of_lt (Nat.mul_le_mul_right _ (length_workFrom_le _ _)) hfits

/-- A run over an index goes by the sums of tokens. -/
theorem run_tokens (p : Project) (c : Collaborators (FileTree × σ)) (only : Option Glob.Pattern)
    (s : FileTree × σ) :
    match p.run c only s with
    | .error (.config _) =>
      (¬∃ index, p.index s.1 = .ok index) ∧ SumsFit 0 (p.work c only s)
    | .error .overflow => ¬SumsFit 0 (p.work c only s)
    | .ok _ => (∃ index, p.index s.1 = .ok index) ∧ SumsFit 0 (p.work c only s) := by
  have hrunning := run_running p c only s
  have hall {index : SymbolIndex} :
      (∃ result, p.processAll c index (p.sources s.1 only) .zero s = .ok result) ↔
        SumsFit 0 (p.workFrom c index (p.sources s.1 only) s) :=
    processAll_ok_iff (by decide)
  rw [work]
  generalize p.run c only s = result at hrunning
  cases hrunning with
  | unindexed hindex => simp [hindex, sumsFit_nil]
  | overflowed hindex hprocess => simp [hindex, ← hall, hprocess]
  | reported hindex hprocess => simp [hindex, ← hall, hprocess]

/-- **A run ends by the tokens of the answers.** -/
theorem run_endsByTokens (p : Project) (c : Collaborators (FileTree × σ))
    (only : Option Glob.Pattern) (s : FileTree × σ) : EndsByTokens p c only s where
  reports := by
    constructor
    · rintro ⟨report, events, s', hrun, -⟩
      have htokens := run_tokens p c only s
      rwa [hrun] at htokens
    · rintro ⟨⟨index, hindex⟩, hfits⟩
      obtain ⟨report, events, -, s', hrun, -⟩ := run_of_sumsFit hindex hfits
      exact ⟨report, events, s', hrun, run_files hrun⟩
  overflows := by
    have htokens := run_tokens p c only s
    constructor
    · intro hrun
      rwa [hrun] at htokens
    · intro hnot
      split at htokens
      · exact absurd htokens.2 hnot
      · assumption
      · exact absurd htokens.2 hnot
  safe := fun _ => sumsFit_of_within

end Project

/-! ### Answers of one token, and answers of as many as a word can count -/

/-- The tree of the project with an empty source file. -/
def blankTree : FileTree :=
  ⟨[(["shop"], .directory), (["shop", "src"], .directory),
    (["shop", "src", "Cart.java"], .file .empty)]⟩

theorem allSources_blankTree : cartProject.allSources blankTree = [⟨"/shop/src/Cart.java"⟩] :=
  discover_of_ordered (by decide +kernel) (List.pairwise_singleton _ _)

theorem indexed_blankTree : ∃ index, cartProject.index blankTree = .ok index := by
  apply indexed_of_isSome
  unfold Project.index
  rw [allSources_blankTree]
  decide +kernel

/-- Answers of one token each: five attempts at one file cannot end the program. -/
theorem endsByTokens_cart :
    EndsByTokens cartProject cartCollaborators none (blankTree, ()) ∧
      ∃ report events s', cartProject.run cartCollaborators none (blankTree, ()) =
          .ok (report, events, s') ∧ report.files.map (·.file) = ["Cart.java"] := by
  have hends := Project.run_endsByTokens cartProject cartCollaborators none (blankTree, ())
  have hsources : cartProject.sources blankTree none = [⟨"/shop/src/Cart.java"⟩] :=
    allSources_blankTree
  have hwithin : AnswersWithin cartCollaborators 1 := by
    intro prompt s reply s' hreply
    obtain ⟨hreply, -⟩ := Prod.mk.inj hreply
    rw [← Except.ok.inj hreply]
    exact TokenUsage.le_refl _
  have hsmall : (cartProject.sources blankTree none).length * (cartProject.attemptBound * 1) <
      countLimit := by
    rw [hsources]
    decide
  obtain ⟨report, events, s', hrun, hfiles⟩ :=
    hends.reports.mpr ⟨indexed_blankTree, hends.safe 1 hwithin hsmall⟩
  refine ⟨hends, report, events, s', hrun, ?_⟩
  rw [hfiles, hsources]
  decide +kernel

/-- A provider whose answers say that they took as many tokens as a word can count, and a verifier
that approves of no test. -/
def greedyCollaborators : Collaborators (FileTree × Unit) where
  generate _ s := (.ok ⟨"class CartTest \x7b\x7d", ⟨countLimit - 1, 0⟩⟩, s)
  verify _ s := (.ok ⟨false, "cannot find symbol"⟩, s)

/-- Two answers with counts that are words each, and no report of the run: the second one ends the
program. -/
theorem not_reports_greedy :
    (∀ prompt s, ∃ reply, greedyCollaborators.generate prompt s = (.ok reply, s) ∧
        reply.usage.Fits) ∧
      (∃ index, cartProject.index blankTree = .ok index) ∧
      cartProject.run greedyCollaborators none (blankTree, ()) = .error .overflow ∧
      ¬∃ result, cartProject.run greedyCollaborators none (blankTree, ()) = .ok result := by
  have hoverflow : (((cartProject.run greedyCollaborators none (blankTree, ())).map fun _ =>
      false).tryCatch fun stop => .ok (decide (stop = .overflow))).toOption = some true := by
    rw [Project.run, Project.index, Project.sources]
    simp only [allSources_blankTree]
    decide +kernel
  have hrun : cartProject.run greedyCollaborators none (blankTree, ()) = .error .overflow := by
    cases hresult : cartProject.run greedyCollaborators none (blankTree, ()) with
    | ok result =>
      rw [hresult] at hoverflow
      cases hoverflow
    | error stop =>
      rw [hresult] at hoverflow
      rw [of_decide_eq_true (Option.some.inj hoverflow)]
  refine ⟨fun prompt s => ⟨_, rfl, by decide⟩, indexed_blankTree, hrun, ?_⟩
  rintro ⟨result, hok⟩
  rw [hrun] at hok
  cases hok

end Testsmith
