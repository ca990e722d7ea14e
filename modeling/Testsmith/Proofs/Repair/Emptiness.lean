/-
# Nothing empty is verified

A repair run turns away a reply without text, and asks the verifier about every other one. The test
that it asks about, and the one that it ends with, is the body of a reply in which there was text
when the fences were gone (`reached_fromReply`). So the body of a test is empty, or a reply without
code is built, exactly when such a reply is answered in the run: one that has nothing in it but
fences, blanks and headers, and still has text when the fences are gone (`nothingEmpty_iff`).

Key definitions: `FromReply`, `RecordsNothing`, `NothingEmpty`.
Key theorems: `reached_fromReply`, `exists_generation`, `nothingEmpty_iff`.
-/
import Testsmith.Proofs.Repair.Approval
import Testsmith.Proofs.Reply.Codeless

namespace Testsmith
namespace Repair

/-! ### Where a test comes from -/

/-- The body of the test is what is left of a reply in one of the calls. -/
def FromReply (calls : List Call) (a : Artifact) : Prop :=
  ∃ prompt reply, .generate prompt (.ok reply) ∈ calls ∧ stripFences reply.text ≠ "" ∧
    a.body = (splitGenerated (stripFences reply.text)).2

theorem FromReply.append {calls : List Call} {a : Artifact} (h : FromReply calls a)
    (more : List Call) : FromReply (calls ++ more) a := by
  obtain ⟨prompt, reply, hmem, htext, hbody⟩ := h
  exact ⟨prompt, reply, List.mem_append_left _ hmem, htext, hbody⟩

variable {σ : Type} {c : Collaborators σ} {j : Job}

/-- A step keeps the test it has, or takes it from the reply that it is answered. -/
theorem fromReply_transition {calls more : List Call} {r : Run} {s s' : σ} {next : Step}
    (h : ∀ a, r.state.artifact? = some a → FromReply calls a)
    (ht : Transition c j r s more next s') :
    ∀ a, next.run.state.artifact? = some a → FromReply (calls ++ more) a := by
  intro a ha
  rcases artifact?_transition ht ha with hkept | ⟨prompt, reply, hmem, htext, rfl⟩
  · exact (h a hkept).append more
  · exact ⟨prompt, reply, List.mem_append_right _ hmem, htext, rfl⟩

theorem reached_fromReply {s₀ s : σ} {calls : List Call} {r : Run}
    (h : Reached c j s₀ calls r s) :
    ∀ a, r.state.artifact? = some a → FromReply calls a := by
  induction h with
  | start => exact fun a ha => by cases ha
  | step _ taken ih => exact fromReply_transition ih (step_transition taken)

/-- A reply among the calls was given to a run that was generating, and taken up. -/
theorem exists_generation {s₀ s : σ} {calls : List Call} {r : Run} {prompt : String}
    {reply : Reply} (h : Reached c j s₀ calls r s)
    (hm : .generate prompt (.ok reply) ∈ calls) :
    ∃ before q s₁ k next s₂, Reached c j s₀ before q s₁ ∧ q.state = .generating k ∧
      (c.generate (j.request.prompt q.failures) s₁).1 = .ok reply ∧
      step c j q s₁ = (.ok next, s₂) := by
  induction h with
  | start => cases hm
  | @step before q s₁ s₂ next reached taken ih =>
    rcases List.mem_append.mp hm with hm | hm
    · exact ih hm
    · rw [callsOf] at hm
      cases hq : q.state with
      | generating k =>
        rw [hq] at hm
        have hanswer := (Call.generate.inj (List.mem_singleton.mp hm)).2
        exact ⟨before, q, s₁, k, next, s₂, reached, hq, hanswer.symm, taken⟩
      | compiling k artifact =>
        rw [hq] at hm
        cases List.mem_singleton.mp hm
      | retrying k =>
        rw [hq] at hm
        cases hm
      | success artifact =>
        rw [hq] at hm
        cases hm
      | failed =>
        rw [hq] at hm
        cases hm

/-! ### Replies without code -/

/-- The attempt is on record with an empty reply, and it makes no call any more. -/
def RecordsNothing (c : Collaborators σ) (j : Job) (attempt : Nat) (r : Run) (next : Step) (s : σ) :
    Prop :=
  next.run.attempts = r.attempts ++
      [{ index := attempt, prompt := j.request.prompt r.failures,
         generationError := some .empty }] ∧
    next.run.failures = r.failures ∧ callsOf c j next.run s = []

/-- Nothing empty is verified or given as a result: no test has an empty body, and an attempt at
which the reply has no code in it is on record with an empty reply and not built. -/
structure NothingEmpty (c : Collaborators σ) (j : Job) (s₀ : σ) : Prop where
  body : ∀ {calls r s a}, Reached c j s₀ calls r s → r.state.artifact? = some a → a.body ≠ ""
  codeless : ∀ {calls r s attempt reply next s'}, Reached c j s₀ calls r s →
    r.state = .generating attempt →
    (c.generate (j.request.prompt r.failures) s).1 = .ok reply → Codeless reply.text.toList →
    step c j r s = (.ok next, s') → RecordsNothing c j attempt r next s'

theorem callsOf_afterFailure (k : Nat) {r : Run} (h : r.state = j.afterFailure k) (s : σ) :
    callsOf c j r s = [] := by
  rw [Job.afterFailure] at h
  split at h
  · rw [callsOf, h]
  · rw [callsOf, h]

section
variable {r : Run} {s s' : σ} {k : Nat} {reply : Reply} {next : Step}
  (hr : r.state = .generating k)
  (hanswer : (c.generate (j.request.prompt r.failures) s).1 = .ok reply)
  (hstep : step c j r s = (.ok next, s'))

include hr hanswer hstep

/-- What becomes of a reply turns on the text in it. -/
theorem step_of_reply :
    (stripFences reply.text = "" ∧ RecordsNothing c j k r next s') ∨
      (stripFences reply.text ≠ "" ∧ ∃ a, next.run.state = .compiling k a) := by
  generalize hcalls : callsOf c j r s = calls
  have ht := step_transition hstep
  rw [hcalls] at ht
  cases ht with
  | @unanswered k' e _ state answer =>
    rw [answer] at hanswer
    cases hanswer
  | @blank k' reply' usage _ state answer sum text =>
    rw [answer] at hanswer
    rw [hr, State.generating.injEq] at state
    obtain rfl := Except.ok.inj hanswer
    subst state
    exact Or.inl ⟨by simpa using text, rfl, rfl, callsOf_afterFailure k rfl _⟩
  | @answered k' reply' usage _ state answer sum text =>
    rw [answer] at hanswer
    rw [hr, State.generating.injEq] at state
    obtain rfl := Except.ok.inj hanswer
    subst state
    exact Or.inr ⟨by simpa using text, _, rfl⟩
  | unbuilt state _ =>
    rw [hr] at state
    cases state
  | built state _ =>
    rw [hr] at state
    cases state
  | retried state =>
    rw [hr] at state
    cases state
  | ended state =>
    rw [hr] at state
    cases state

end

/-- **Nothing empty is verified exactly when no reply is overlooked**: none that has nothing but
fences, blanks and headers in it and still has text when the fences are gone. -/
theorem nothingEmpty_iff (c : Collaborators σ) (j : Job) (s₀ : σ) :
    NothingEmpty c j s₀ ↔ ∀ calls r s, Reached c j s₀ calls r s →
      ∀ prompt reply, .generate prompt (.ok reply) ∈ calls → ¬Overlooked reply.text := by
  constructor
  · rintro h calls r s hreached prompt reply hm ⟨hcodeless, htext⟩
    obtain ⟨before, q, s₁, k, next, s₂, hq, hstate, hanswer, hstep⟩ :=
      exists_generation hreached hm
    obtain ⟨-, -, hcalls⟩ := h.codeless hq hstate hanswer hcodeless hstep
    rcases step_of_reply hstate hanswer hstep with ⟨hempty, -⟩ | ⟨-, a, ha⟩
    · exact htext hempty
    · rw [callsOf, ha] at hcalls
      cases hcalls
  · intro h
    constructor
    · intro calls r s a hreached ha hempty
      obtain ⟨prompt, reply, hm, htext, hbody⟩ := reached_fromReply hreached _ ha
      rw [hempty] at hbody
      exact h _ _ _ hreached prompt reply hm (overlooked_of_body_eq htext hbody.symm)
    · intro calls r s k reply next s' hreached hstate hanswer hcodeless hstep
      rcases step_of_reply hstate hanswer hstep with ⟨-, hrecords⟩ | ⟨htext, -⟩
      · exact hrecords
      · have hm : .generate (j.request.prompt r.failures) (.ok reply) ∈
            calls ++ callsOf c j r s := by
          rw [callsOf, hstate, hanswer]
          exact List.mem_append_right _ (List.mem_singleton_self _)
        exact absurd ⟨hcodeless, htext⟩ (h _ _ _ (hreached.step hstep) _ _ hm)

/-- A reply that only imports something is built, and the test that passes is empty. -/
theorem not_nothingEmpty_imports :
    let j : Job := ⟨⟨.plain, {}, "A", "ATest", ""⟩, "", ⟨"ATest.java"⟩, .empty, 1⟩
    let s : List (Except GenerationError Reply) × List (Except VerifyError Verification) :=
      ([.ok ⟨"import java.util.List;", ⟨0, 0⟩⟩], [.ok ⟨true, ""⟩])
    Codeless "import java.util.List;".toList ∧
      (∃ o a, (outcome scripted j s).1 = .ok o ∧ o.result = .ok a ∧ a.body = "") ∧
      ¬NothingEmpty scripted j s := by
  intro j s
  have hcodeless : Codeless "import java.util.List;".toList := by
    have hline : Spare ("import java.util.List;".toList ++ []) :=
      .header ⟨"java.util.List".toList, Or.inl (by decide)⟩ (by decide) .nil
    exact Or.inl (by rwa [List.append_nil] at hline)
  refine ⟨hcodeless, ⟨_, _, rfl, rfl, by decide +kernel⟩, fun h => ?_⟩
  -- the first step takes the reply for code, and leads to a build
  obtain ⟨-, -, hcalls⟩ := h.codeless .start rfl rfl hcodeless rfl
  exact absurd (congrArg List.length hcalls) (by decide +kernel)

end Repair
end Testsmith
