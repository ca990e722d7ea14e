/-
# What the verifier approved

A repair run that ends with a test has asked the verifier about it, and the verifier has approved
this test and no other (`approved_of_result`). The calls of a run are those of its steps, in order
(`callsFrom`), and they are the calls on the way to the run it ends with (`reached_callsFrom`). The
test goes to the destination of the job (`path_of_outcome`).

Key definitions: `callsFrom`, `approved`.
Key theorems: `approved_of_result`, `reached_callsFrom`, `path_of_outcome`.
-/
import Testsmith.Proofs.Repair.Transition

namespace Testsmith
namespace Repair

variable {σ : Type} (c : Collaborators σ) (j : Job)

/-- The calls that are made while a run takes steps until it ends, at most `bound` of them. -/
def callsFrom : (bound : Nat) → Run → σ → List Call
  | 0, _, _ => []
  | bound + 1, r, s =>
    if r.state.isTerminal then []
    else
      match step c j r s with
      | (.ok ⟨next, none⟩, s') => callsOf c j r s ++ callsFrom bound next s'
      | _ => callsOf c j r s

/-- The tests that the verifier approved in calls. -/
def approved (calls : List Call) : List Artifact :=
  calls.filterMap fun call =>
    match call with
    | .verify artifact (.ok v) => if v.success then some artifact else none
    | _ => none

theorem approved_append (calls more : List Call) :
    approved (calls ++ more) = approved calls ++ approved more :=
  List.filterMap_append

variable {c j}

/-- One more step of a run that goes on. -/
theorem runFrom_succ {bound : Nat} {r : Run} {s s' : σ} {o : Outcome}
    (hr : r.state.isTerminal = false) (h : runFrom c j (bound + 1) r s = (.ok o, s')) :
    ∃ next s₁, step c j r s = (.ok ⟨next, none⟩, s₁) ∧ runFrom c j bound next s₁ = (.ok o, s') ∧
      callsFrom c j (bound + 1) r s = callsOf c j r s ++ callsFrom c j bound next s₁ := by
  rw [runFrom, hr] at h
  cases hstep : step c j r s with
  | mk result s₁ =>
    rw [hstep] at h
    simp only [Bool.false_eq_true, if_false] at h
    rcases result with e | ⟨next, error⟩
    · cases e
      cases h
    · cases error with
      | some e => cases h
      | none =>
        refine ⟨next, s₁, rfl, h, ?_⟩
        rw [callsFrom, hr, hstep]
        rfl

theorem runFrom_ended {bound : Nat} {r : Run} {s s' : σ} {o : Outcome}
    (hr : r.state.isTerminal = true) (h : runFrom c j bound r s = (.ok o, s')) :
    o = r.finish ∧ s' = s ∧ callsFrom c j bound r s = [] := by
  cases bound with
  | zero =>
    simp only [runFrom, Prod.mk.injEq, Except.ok.injEq] at h
    exact ⟨h.1.symm, h.2.symm, rfl⟩
  | succ bound =>
    simp only [runFrom, hr, if_true, Prod.mk.injEq, Except.ok.injEq] at h
    refine ⟨h.1.symm, h.2.symm, ?_⟩
    rw [callsFrom, hr]
    rfl

theorem finish_result_ok {r : Run} {a : Artifact} (h : r.finish.result = .ok a) :
    r.state = .success a := by
  rw [Run.finish] at h
  cases hs : r.state with
  | success artifact =>
    simp only [hs, Except.ok.injEq] at h
    rw [h]
  | generating k => simp [hs] at h
  | compiling k artifact => simp [hs] at h
  | retrying k => simp [hs] at h
  | failed => simp [hs] at h

/-- A step that approves a test ends the run with it, and no other step ends the run with a test. -/
theorem approved_step {r : Run} {s s' : σ} {next : Run} (hr : r.state.isTerminal = false)
    (h : step c j r s = (.ok ⟨next, none⟩, s')) :
    (approved (callsOf c j r s) = [] ∧ ∀ a, next.state ≠ .success a) ∨
      ∃ a, approved (callsOf c j r s) = [a] ∧ next.state = .success a := by
  have hafter (k : Nat) (a : Artifact) : j.afterFailure k ≠ .success a := by
    rw [Job.afterFailure]
    split <;> simp
  generalize hcalls : callsOf c j r s = calls
  have ht := step_transition h
  rw [hcalls] at ht
  generalize hn : (⟨next, none⟩ : Step) = n at ht
  cases ht with
  | unanswered state answer =>
    cases hn
    exact Or.inl ⟨rfl, hafter _⟩
  | blank state answer sum text =>
    cases hn
    exact Or.inl ⟨rfl, hafter _⟩
  | answered state answer sum text =>
    cases hn
    exact Or.inl ⟨rfl, fun a ha => by cases ha⟩
  | unbuilt state answer => cases hn
  | @built k artifact v _ state answer =>
    cases hn
    cases hv : v.success with
    | true =>
      refine Or.inr ⟨artifact, ?_, ?_⟩
      · simp [approved, hv]
      · rw [Job.afterBuild, if_pos hv]
    | false =>
      refine Or.inl ⟨?_, fun a => ?_⟩
      · simp [approved, hv]
      · rw [Job.afterBuild, if_neg (by simp [hv])]
        exact hafter k a
  | retried state =>
    cases hn
    exact Or.inl ⟨rfl, fun a ha => by cases ha⟩
  | ended state =>
    rw [hr] at state
    cases state

/-- **A run that ends with a test has had this test approved, and no other.** The induction is on
the steps left: no test is approved before the step that ends the run, and no call follows it. -/
theorem approved_of_result : ∀ {bound : Nat} {r : Run} {s s' : σ} {o : Outcome} {a : Artifact},
    (∀ a, r.state ≠ .success a) → runFrom c j bound r s = (.ok o, s') → o.result = .ok a →
      approved (callsFrom c j bound r s) = [a]
  | 0, r, s, s', o, a, hr, h, ho => by
    simp only [runFrom, Prod.mk.injEq, Except.ok.injEq] at h
    rw [← h.1] at ho
    exact absurd (finish_result_ok ho) (hr a)
  | bound + 1, r, s, s', o, a, hr, h, ho => by
    cases hterm : r.state.isTerminal with
    | true =>
      obtain ⟨rfl, -, -⟩ := runFrom_ended hterm h
      exact absurd (finish_result_ok ho) (hr a)
    | false =>
      obtain ⟨next, s₁, hstep, hrest, hcalls⟩ := runFrom_succ hterm h
      rw [hcalls, approved_append]
      rcases approved_step hterm hstep with ⟨hnone, hnext⟩ | ⟨b, hb, hnext⟩
      · rw [hnone, approved_of_result hnext hrest ho]
        rfl
      · obtain ⟨rfl, -, hend⟩ := runFrom_ended (by rw [hnext]; rfl) hrest
        have hab := finish_result_ok ho
        rw [hnext, State.success.injEq] at hab
        rw [hb, hend, hab]
        rfl

/-- The calls of a run lead to the run that it ends with. -/
theorem reached_callsFrom {s₀ : σ} : ∀ {bound : Nat} {r : Run} {s s' : σ} {o : Outcome}
    {calls : List Call}, Reached c j s₀ calls r s → runFrom c j bound r s = (.ok o, s') →
      ∃ last, Reached c j s₀ (calls ++ callsFrom c j bound r s) last s' ∧ o = last.finish
  | 0, r, s, s', o, calls, hr, h => by
    simp only [runFrom, Prod.mk.injEq, Except.ok.injEq] at h
    obtain ⟨rfl, rfl⟩ := h
    refine ⟨r, ?_, rfl⟩
    rwa [callsFrom, List.append_nil]
  | bound + 1, r, s, s', o, calls, hr, h => by
    cases hterm : r.state.isTerminal with
    | true =>
      obtain ⟨rfl, rfl, hend⟩ := runFrom_ended hterm h
      refine ⟨r, ?_, rfl⟩
      rwa [hend, List.append_nil]
    | false =>
      obtain ⟨next, s₁, hstep, hrest, hcalls⟩ := runFrom_succ hterm h
      rw [hcalls, ← List.append_assoc]
      exact reached_callsFrom (hr.step hstep) hrest

/-! ### Where the test goes -/

/-- The test that a state is about. -/
def State.artifact? : State → Option Artifact
  | compiling _ artifact | success artifact => some artifact
  | _ => none

theorem artifact?_afterFailure (j : Job) (k : Nat) : (j.afterFailure k).artifact? = none := by
  rw [Job.afterFailure]
  split <;> rfl

/-- A step keeps the test it has, or makes one of the reply that it is answered. -/
theorem artifact?_transition {calls : List Call} {r : Run} {s s' : σ} {next : Step} {a : Artifact}
    (ht : Transition c j r s calls next s') (ha : next.run.state.artifact? = some a) :
    r.state.artifact? = some a ∨
      ∃ prompt reply, .generate prompt (.ok reply) ∈ calls ∧ stripFences reply.text ≠ "" ∧
        a = .ofResolved j.package j.request.testClass
          (resolveImports reply.text j.package j.request.className j.index) j.destination := by
  cases ht with
  | unanswered _ _ =>
    rw [Job.rejectGeneration, artifact?_afterFailure] at ha
    cases ha
  | blank _ _ _ _ =>
    rw [Job.rejectGeneration, artifact?_afterFailure] at ha
    cases ha
  | @answered k reply usage _ _ _ _ htext =>
    refine Or.inr ⟨_, reply, List.mem_singleton_self _, ?_, (Option.some.inj ha).symm⟩
    intro hempty
    rw [hempty] at htext
    cases htext
  | unbuilt _ _ => cases ha
  | built hs _ =>
    rw [Job.afterBuild] at ha
    split at ha
    · rw [hs]
      exact Or.inl ha
    · rw [artifact?_afterFailure] at ha
      cases ha
  | retried _ => cases ha
  | ended _ => exact Or.inl ha

theorem path_transition {calls : List Call} {r : Run} {s s' : σ} {next : Step}
    (h : ∀ a, r.state.artifact? = some a → a.path = j.destination)
    (ht : Transition c j r s calls next s') :
    ∀ a, next.run.state.artifact? = some a → a.path = j.destination := by
  intro a ha
  rcases artifact?_transition ht ha with hkept | ⟨-, -, -, -, rfl⟩
  · exact h a hkept
  · rfl

theorem reached_path {s₀ s : σ} {calls : List Call} {r : Run} (h : Reached c j s₀ calls r s) :
    ∀ a, r.state.artifact? = some a → a.path = j.destination := by
  induction h with
  | start => exact fun a ha => by cases ha
  | step _ taken ih => exact path_transition ih (step_transition taken)

/-- A test that a run ends with goes to the destination of the job. -/
theorem path_of_outcome {s s' : σ} {o : Outcome} {a : Artifact} (h : outcome c j s = (.ok o, s'))
    (ho : o.result = .ok a) : a.path = j.destination := by
  obtain ⟨last, hlast, rfl⟩ := reached_callsFrom .start h
  refine reached_path hlast a ?_
  rw [finish_result_ok ho]
  rfl

/-- What every call leaves alone, a run leaves alone. -/
theorem runFrom_preserves {P : σ → Prop} (hg : ∀ prompt s, P s → P (c.generate prompt s).2)
    (hv : ∀ a s, P s → P (c.verify a s).2) : ∀ {bound : Nat} {r : Run} {s : σ}, P s →
      P (runFrom c j bound r s).2
  | 0, _, _, hs => hs
  | bound + 1, r, s, hs => by
    have hstep : P (step c j r s).2 := by
      rw [step]
      cases hr : r.state with
      | generating k => exact hg _ s hs
      | compiling k artifact =>
        have hbuilt := hv artifact s hs
        dsimp only
        generalize c.verify artifact s = answer at hbuilt ⊢
        obtain ⟨result, s'⟩ := answer
        cases result <;> exact hbuilt
      | retrying k => exact hs
      | success artifact => exact hs
      | failed => exact hs
    rw [runFrom]
    split
    · exact hs
    · generalize step c j r s = taken at hstep ⊢
      obtain ⟨result, s'⟩ := taken
      rcases result with e | ⟨next, error⟩
      · cases e
        exact hstep
      · cases error with
        | some e => exact hstep
        | none => exact runFrom_preserves hg hv hstep

end Repair
end Testsmith
