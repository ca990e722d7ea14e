/-
# A repair run ends

Every step of a run that has not ended brings it nearer to its end: what is left of it (`Job.rest`)
counts three steps for each attempt still allowed, less those taken of the attempt under way. So a
run ends within three steps for each attempt, but for one. There are no more calls of the provider
than attempts allowed, and no more of the verifier than of the provider.

Steps may go on after the end of a run, and after an error (`course`). The program ends in a step
whose sum of tokens does not fit; no other step fails to lead to a run.

Key definitions: `Job.rest`, `Course`, `course`, `EndsInTime`.
Key theorems: `rest_transition`, `runFrom_add`, `run_endsInTime`.
-/
import Testsmith.Proofs.Repair.Approval
import Testsmith.Proofs.Repair.Records
import Testsmith.Proofs.Repair.Tokens

namespace Testsmith
namespace Repair

/-- How many steps there may be from a state to the end of the run. -/
def Job.rest (j : Job) : State → Nat
  | .generating k => 3 * (j.bound - k) + 2
  | .compiling k _ => 3 * (j.bound - k) + 1
  | .retrying k => 3 * (j.bound - k)
  | .success _ | .failed => 0

/-- Where so many steps from the start of a run have led. -/
structure Course (σ : Type) where
  /-- The run, unless the program has ended because a sum of tokens does not fit. -/
  result : Except Overflow Run
  /-- The state of the collaborators. -/
  world : σ
  /-- The calls made on the way. -/
  calls : List Call

variable {σ : Type} (c : Collaborators σ) (j : Job)

/-- One more step, whatever the run has come to. -/
def Course.next (w : Course σ) : Course σ :=
  match w.result with
  | .error .tokens => w
  | .ok r =>
    ⟨(step c j r w.world).1.map (·.run), (step c j r w.world).2, w.calls ++ callsOf c j r w.world⟩

/-- So many steps from the start of a run. -/
def course (s : σ) : Nat → Course σ
  | 0 => ⟨.ok .start, s, []⟩
  | n + 1 => (course s n).next c j

/-- The state that a run is in. A step first takes the state out of the run and leaves `failed` in
its place, so that this is what it finds itself in when the program ends in the step. -/
def Course.state (w : Course σ) : State :=
  match w.result with
  | .ok r => r.state
  | .error .tokens => .failed

def Call.isGenerate : Call → Bool
  | .generate _ _ => true
  | .verify _ _ => false

def Call.isVerify : Call → Bool
  | .verify _ _ => true
  | .generate _ _ => false

variable {c j}

/-! ### What is left of a run -/

theorem rest_start : j.rest Run.start.state = j.stepBound := by
  have := one_le_bound j
  simp only [Job.rest, Run.start, Job.stepBound]
  omega

theorem rest_afterFailure_le (k : Nat) : j.rest (j.afterFailure k) ≤ 3 * (j.bound - k) := by
  rw [Job.afterFailure]
  split
  · exact Nat.le_refl _
  · exact Nat.zero_le _

theorem afterBuild_state (k : Nat) (a : Artifact) (r : Run) (v : Verification) :
    (j.afterBuild k a r v).state = if v.success then .success a else j.afterFailure k := by
  rw [Job.afterBuild]
  split <;> rfl

/-- A run that has not ended has a step left. -/
theorem rest_pos {calls : List Call} {r : Run} (h : r.Fits j calls)
    (hr : r.state.isTerminal = false) : 1 ≤ j.rest r.state := by
  cases hs : r.state with
  | generating k => simp [Job.rest]
  | compiling k artifact => simp [Job.rest]
  | retrying k =>
    obtain ⟨-, hk, -⟩ := h.retrying hs
    simp only [Job.rest]
    omega
  | success artifact => rw [hs] at hr; cases hr
  | failed => rw [hs] at hr; cases hr

/-- **Every step of a run that has not ended brings it nearer to its end.** -/
theorem rest_transition {past calls : List Call} {r : Run} {s s' : σ} {next : Step}
    (h : r.Fits j past) (hr : r.state.isTerminal = false) (ht : Transition c j r s calls next s') :
    j.rest next.run.state + 1 ≤ j.rest r.state := by
  cases ht with
  | @unanswered k _ _ hs _ =>
    have hle := rest_afterFailure_le (j := j) k
    simp only [Job.rejectGeneration, hs, Job.rest] at hle ⊢
    omega
  | @blank k _ _ _ hs _ _ _ =>
    have hle := rest_afterFailure_le (j := j) k
    simp only [Job.rejectGeneration, hs, Job.rest] at hle ⊢
    omega
  | answered hs _ _ _ => simp [Job.acceptGeneration, hs, Job.rest]
  | unbuilt hs _ => simp [hs, Job.rest]
  | @built k artifact v _ hs _ =>
    have hle := rest_afterFailure_le (j := j) k
    simp only [afterBuild_state, hs]
    split
    · exact Nat.le_add_left 1 _
    · exact Nat.succ_le_succ hle
  | @retried k hs =>
    obtain ⟨-, hk, -⟩ := h.retrying hs
    simp only [hs, Job.rest]
    omega
  | ended hs => rw [hr] at hs; cases hs

/-- More steps than are left make no difference. -/
theorem runFrom_add (more : Nat) : ∀ {n : Nat} {past : List Call} {r : Run} {s : σ},
    r.Fits j past → j.rest r.state ≤ n → runFrom c j (n + more) r s = runFrom c j n r s := by
  intro n
  induction n with
  | zero =>
    intro past r s h hn
    have hr : r.state.isTerminal = true := by
      cases hr : r.state.isTerminal with
      | true => rfl
      | false =>
        have := rest_pos h hr
        omega
    cases more with
    | zero => rfl
    | succ more =>
      rw [Nat.zero_add, runFrom, runFrom, hr]
      rfl
  | succ n ih =>
    intro past r s h hn
    rw [Nat.succ_add, runFrom, runFrom]
    cases hr : r.state.isTerminal with
    | true => rfl
    | false =>
      cases hstep : step c j r s with
      | mk result s' =>
        rcases result with e | ⟨next, _ | e⟩
        · cases e
          rfl
        · have ht := step_transition hstep
          have hrest := rest_transition h hr ht
          exact ih (fits_transition h ht) (by simp only at hrest; omega)
        · rfl

/-! ### The calls of a run -/

/-- How many calls there are, by the records of the run. -/
structure Run.Counted (r : Run) (calls : List Call) : Prop where
  generated : calls.countP Call.isGenerate = r.attempts.length
  verified : calls.countP Call.isVerify ≤ r.attempts.length
  /-- The code of the last attempt was not built yet. -/
  compiling : ∀ k artifact, r.state = .compiling k artifact →
    calls.countP Call.isVerify + 1 ≤ r.attempts.length

theorem length_mapLast (f : Attempt → Attempt) : ∀ as : List Attempt,
    (mapLast f as).length = as.length
  | [] => rfl
  | [_] => rfl
  | _ :: b :: as => congrArg (· + 1) (length_mapLast f (b :: as))

theorem afterFailure_ne_compiling (j : Job) (k k' : Nat) (a : Artifact) :
    j.afterFailure k ≠ .compiling k' a := by
  rw [Job.afterFailure]
  split <;> simp

theorem Run.Counted.rejectGeneration {r : Run} {calls : List Call} (h : r.Counted calls) (k : Nat)
    (usage : TokenUsage) (e : GenerationError) (prompt : String)
    (answer : Except GenerationError Reply) :
    (j.rejectGeneration k r usage e).Counted (calls ++ [.generate prompt answer]) where
  generated := by simp [Job.rejectGeneration, Call.isGenerate, h.generated]
  verified := by
    have := h.verified
    simp only [Job.rejectGeneration, Call.isVerify, List.countP_append, List.countP_singleton,
      List.length_append, List.length_singleton]
    simp only [Bool.false_eq_true, if_false]
    omega
  compiling k' _ hs := absurd hs (afterFailure_ne_compiling j k k' _)

theorem counted_transition {past calls : List Call} {r : Run} {s s' : σ} {next : Step}
    (h : r.Counted past) (ht : Transition c j r s calls next s') :
    next.run.Counted (past ++ calls) := by
  cases ht with
  | unanswered _ _ => exact h.rejectGeneration _ _ _ _ _
  | blank _ _ _ _ => exact h.rejectGeneration _ _ _ _ _
  | answered _ _ _ _ =>
    have hg := h.generated
    have hv := h.verified
    refine ⟨?_, ?_, fun k' a _ => ?_⟩ <;>
      simp [Job.acceptGeneration, Call.isGenerate, Call.isVerify] <;> omega
  | unbuilt hs _ =>
    have hg := h.generated
    have hc := h.compiling _ _ hs
    refine ⟨?_, ?_, fun k' a hs' => by cases hs'⟩ <;>
      simp [Call.isGenerate, Call.isVerify] <;> omega
  | @built k artifact v _ hs _ =>
    have hg := h.generated
    have hc := h.compiling _ _ hs
    have hlength : (j.afterBuild k artifact r v).attempts.length = r.attempts.length := by
      rw [Job.afterBuild]
      split <;> exact length_mapLast _ _
    refine ⟨?_, ?_, fun k' a hs' => ?_⟩
    · simp [Call.isGenerate, hlength, hg]
    · simp [Call.isVerify, hlength]
      omega
    · rw [afterBuild_state] at hs'
      split at hs'
      · cases hs'
      · exact absurd hs' (afterFailure_ne_compiling j k k' a)
  | retried _ =>
    rw [List.append_nil]
    exact ⟨h.generated, h.verified, fun k' a hs' => by cases hs'⟩
  | ended _ => rwa [List.append_nil]

theorem reached_counted {s₀ s : σ} {calls : List Call} {r : Run} (h : Reached c j s₀ calls r s) :
    r.Counted calls := by
  induction h with
  | start => exact ⟨rfl, Nat.le_refl 0, fun k a hs => by cases hs⟩
  | step _ taken ih => exact counted_transition ih (step_transition taken)

/-! ### Sums that do not fit -/

theorem usage_fits_transition {calls : List Call} {r : Run} {s s' : σ} {next : Step}
    (h : r.usage.Fits) (ht : Transition c j r s calls next s') : next.run.usage.Fits := by
  cases ht with
  | unanswered _ _ => exact h
  | blank _ _ hsum _ => exact (TokenUsage.add?_eq_some_iff.mp hsum).2.2
  | answered _ _ hsum _ => exact (TokenUsage.add?_eq_some_iff.mp hsum).2.2
  | unbuilt _ _ => exact h
  | built _ _ =>
    rw [Job.afterBuild]
    split <;> exact h
  | retried _ => exact h
  | ended _ => exact h

theorem reached_usage_fits {s₀ s : σ} {calls : List Call} {r : Run}
    (h : Reached c j s₀ calls r s) : r.usage.Fits := by
  induction h with
  | start => exact ⟨by decide, by decide⟩
  | step _ taken ih => exact usage_fits_transition ih (step_transition taken)

/-- The program ends in a step only when the tokens of an answer do not fit into the sum. -/
theorem step_overflow {r : Run} {s s' : σ} (h : step c j r s = (.error .tokens, s')) :
    ∃ k reply, r.state = .generating k ∧
      callsOf c j r s = [.generate (j.request.prompt r.failures) (.ok reply)] ∧
      ¬(r.usage + reply.usage).Fits := by
  unfold step at h
  cases hr : r.state with
  | generating k =>
    simp only [hr, Prod.mk.injEq] at h
    simp only [callsOf, hr]
    cases ha : (c.generate (j.request.prompt r.failures) s).1 with
    | error e =>
      rw [ha] at h
      cases h.1
    | ok reply =>
      simp only [ha, Job.afterReply] at h
      cases hu : r.usage.add? reply.usage with
      | none => exact ⟨k, reply, rfl, rfl, TokenUsage.add?_eq_none_iff.mp hu⟩
      | some usage =>
        rw [hu] at h
        dsimp only at h
        split at h <;> cases h.1
  | compiling k artifact =>
    simp only [hr] at h
    split at h <;> cases h
  | retrying k => rw [hr] at h; cases h
  | success artifact => rw [hr] at h; cases h
  | failed => rw [hr] at h; cases h

/-! ### So many steps -/

/-- A call of the provider in which the program ended: the tokens of the answer do not fit. -/
structure Overflowed (c : Collaborators σ) (j : Job) (s₀ : σ) (calls : List Call) : Prop where
  last : ∃ past r s k prompt reply, Reached c j s₀ past r s ∧ r.state = .generating k ∧
    calls = past ++ [.generate prompt (.ok reply)] ∧ ¬(r.usage + reply.usage).Fits

/-- What steps have led to: a run, or a step in which the program ended. -/
theorem course_cases (s : σ) (n : Nat) :
    (∃ r, (course c j s n).result = .ok r ∧
        Reached c j s (course c j s n).calls r (course c j s n).world) ∨
      (course c j s n).result = .error .tokens ∧ Overflowed c j s (course c j s n).calls := by
  induction n with
  | zero => exact Or.inl ⟨.start, rfl, .start⟩
  | succ n ih =>
    rw [course]
    generalize course c j s n = w at ih ⊢
    obtain ⟨result, world, calls⟩ := w
    rcases ih with ⟨r, rfl, hreached⟩ | ⟨rfl, hpast⟩
    · cases hstep : step c j r world with
      | mk next world' =>
        simp only [Course.next, hstep]
        cases next with
        | ok next => exact Or.inl ⟨next.run, rfl, hreached.step hstep⟩
        | error e =>
          cases e
          obtain ⟨k, reply, hr, hcalls, hlong⟩ := step_overflow hstep
          exact Or.inr ⟨rfl, ⟨calls, r, world, k, _, reply, hreached, hr, by rw [hcalls], hlong⟩⟩
    · exact Or.inr ⟨rfl, hpast⟩

/-- The run that steps have led to was reached by them. -/
theorem course_reached {s : σ} {n : Nat} {r : Run} (h : (course c j s n).result = .ok r) :
    Reached c j s (course c j s n).calls r (course c j s n).world := by
  rcases course_cases (c := c) (j := j) s n with ⟨r', hr', hreached⟩ | ⟨hr', -⟩
  · obtain rfl : r' = r := Except.ok.inj (hr'.symm.trans h)
    exact hreached
  · rw [h] at hr'
    cases hr'

/-- The program ends in a step just when the tokens of all answers do not fit together. -/
theorem course_overflow_iff (s : σ) (n : Nat) : (course c j s n).result = .error .tokens ↔
    ¬(totalUsage (course c j s n).calls).Fits := by
  rcases course_cases (c := c) (j := j) s n with ⟨r, hr, hreached⟩ | ⟨hr, hover⟩
  · have hfits := reached_usage_fits hreached
    rw [reached_usage hreached] at hfits
    simp [hr, hfits]
  · obtain ⟨past, r, s', k, prompt, reply, hreached, -, hcalls, hlong⟩ := hover.last
    rw [reached_usage hreached] at hlong
    rw [hr, hcalls, totalUsage_append]
    exact ⟨fun _ => hlong, fun _ => rfl⟩

theorem course_generated_le (s : σ) (n : Nat) :
    (course c j s n).calls.countP Call.isGenerate ≤ j.bound := by
  rcases course_cases (c := c) (j := j) s n with ⟨r, -, hreached⟩ | ⟨-, hover⟩
  · rw [(reached_counted hreached).generated]
    exact (reached_fits hreached).bounded
  · obtain ⟨past, r, s', k, prompt, reply, hreached, hr, hcalls, -⟩ := hover.last
    obtain ⟨-, hk, hlength, -⟩ := (reached_fits hreached).generating hr
    rw [hcalls, List.countP_append, (reached_counted hreached).generated]
    simp only [List.countP_singleton, Call.isGenerate, if_true]
    omega

theorem course_verified_le (s : σ) (n : Nat) :
    (course c j s n).calls.countP Call.isVerify ≤
      (course c j s n).calls.countP Call.isGenerate := by
  rcases course_cases (c := c) (j := j) s n with ⟨r, -, hreached⟩ | ⟨-, hover⟩
  · rw [(reached_counted hreached).generated]
    exact (reached_counted hreached).verified
  · obtain ⟨past, r, s', k, prompt, reply, hreached, -, hcalls, -⟩ := hover.last
    have hcounted := reached_counted hreached
    have hverified := hcounted.verified
    rw [← hcounted.generated] at hverified
    rw [hcalls, List.countP_append, List.countP_append]
    exact Nat.add_le_add hverified (Nat.zero_le 1)

/-- A run that has ended stays as it is, and calls nobody. -/
theorem step_ended {r : Run} (hr : r.state.isTerminal = true) (s : σ) :
    step c j r s = (.ok { run := r }, s) ∧ callsOf c j r s = [] := by
  rw [step, callsOf]
  cases hs : r.state with
  | generating k => rw [hs] at hr; cases hr
  | compiling k artifact => rw [hs] at hr; cases hr
  | retrying k => rw [hs] at hr; cases hr
  | success artifact => exact ⟨rfl, rfl⟩
  | failed => exact ⟨rfl, rfl⟩

theorem course_succ_of_ended {s : σ} {n : Nat} (h : (course c j s n).state.isTerminal = true) :
    course c j s (n + 1) = course c j s n := by
  rw [course]
  generalize course c j s n = w at h ⊢
  obtain ⟨result, world, calls⟩ := w
  cases result with
  | error e =>
    cases e
    rfl
  | ok r =>
    obtain ⟨hstep, hcalls⟩ := step_ended (c := c) (j := j) h world
    simp only [Course.next, hstep, hcalls, List.append_nil]
    rfl

theorem course_of_ended {s : σ} {n : Nat} (h : (course c j s n).state.isTerminal = true) (m : Nat) :
    course c j s (n + m) = course c j s n := by
  induction m with
  | zero => rfl
  | succ m ih => rw [← Nat.add_assoc, course_succ_of_ended (by rw [ih]; exact h), ih]

/-- With every step a run has ended or has fewer steps left. -/
theorem course_rest (s : σ) (n : Nat) : (course c j s n).state.isTerminal = true ∨
    j.rest (course c j s n).state + n ≤ j.stepBound := by
  induction n with
  | zero => exact Or.inr (Nat.le_of_eq rest_start)
  | succ n ih =>
    rcases ih with hend | hrest
    · left
      rwa [course_succ_of_ended hend]
    · rcases course_cases (c := c) (j := j) s n with ⟨r, hr, hreached⟩ | ⟨hr, -⟩
      · rw [course]
        generalize course c j s n = w at hr hreached hrest ⊢
        obtain ⟨result, world, calls⟩ := w
        dsimp only at hr hreached
        subst hr
        cases hstep : step c j r world with
        | mk next world' =>
          simp only [Course.next, hstep, Course.state] at hrest ⊢
          cases next with
          | error e => exact Or.inl rfl
          | ok next =>
            cases hterm : r.state.isTerminal with
            | true =>
              rw [(step_ended hterm world).1, Prod.mk.injEq, Except.ok.injEq] at hstep
              left
              rw [← hstep.1]
              exact hterm
            | false =>
              have hless := rest_transition (reached_fits hreached) hterm (step_transition hstep)
              right
              simp only [Except.map]
              omega
      · left
        rw [course, Course.next, hr]
        simp only [Course.state, hr]
        rfl

/-! ### The end of a run -/

theorem finish_result_error {r : Run} {e : RepairError} (h : r.finish.result = .error e) :
    e.attempts = min r.attempts.length (UInt32.size - 1) := by
  rw [Run.finish] at h
  split at h
  · cases h
  · rw [← Except.error.inj h]

variable (c j)

/-- A run ends, with all it does within bounds. -/
structure EndsInTime (s : σ) : Prop where
  /-- Three steps for each attempt but for one lead to success or failure. -/
  ended : ∀ n, j.stepBound ≤ n → (course c j s n).state.isTerminal = true
  /-- The program ends in a step just when the tokens of all answers do not fit together. -/
  overflow : ∀ n, (course c j s n).result = .error .tokens ↔
    ¬(totalUsage (course c j s n).calls).Fits
  /-- The provider is called at most once for each attempt allowed. -/
  generated : ∀ n, (course c j s n).calls.countP Call.isGenerate ≤ j.bound
  /-- The verifier is called no more often than the provider. -/
  verified : ∀ n, (course c j s n).calls.countP Call.isVerify ≤
    (course c j s n).calls.countP Call.isGenerate
  /-- The number of the next attempt is no more than allowed, and fits a word. -/
  next : ∀ n r k, (course c j s n).result = .ok r → r.state = .retrying k →
    k + 1 ≤ j.bound ∧ k + 1 < UInt32.size
  /-- The number of attempts in the error is that of the records. -/
  counted : ∀ n r e, (course c j s n).result = .ok r → r.finish.result = .error e →
    e.attempts = r.attempts.length
  /-- Once a run has ended, further steps change nothing and call nobody. -/
  settled : ∀ n, (course c j s n).state.isTerminal = true →
    ∀ m, course c j s (n + m) = course c j s n
  /-- Going on until the end takes no more steps than the loop is given. -/
  loop : ∀ more, runFrom c j (j.stepBound + more) .start s = outcome c j s

variable {c j}

/-- **Every repair run ends in time.** -/
theorem run_endsInTime (c : Collaborators σ) {j : Job} (hj : j.maxAttempts < UInt32.size) (s : σ) :
    EndsInTime c j s where
  ended := by
    intro n hn
    rcases course_rest (c := c) (j := j) s n with hend | hrest
    · exact hend
    · rcases course_cases (c := c) (j := j) s n with ⟨r, hr, hreached⟩ | ⟨hr, -⟩
      · simp only [Course.state, hr] at hrest ⊢
        cases hterm : r.state.isTerminal with
        | true => rfl
        | false =>
          have := rest_pos (reached_fits hreached) hterm
          omega
      · simp only [Course.state, hr]
        rfl
  overflow := course_overflow_iff s
  generated := course_generated_le s
  verified := course_verified_le s
  next := by
    intro n r k hr hs
    rcases course_cases (c := c) (j := j) s n with ⟨r', hr', hreached⟩ | ⟨hr', -⟩
    · obtain rfl : r' = r := Except.ok.inj (hr'.symm.trans hr)
      obtain ⟨-, hk, -⟩ := (reached_fits hreached).retrying hs
      exact ⟨hk, Nat.lt_of_le_of_lt hk (bound_lt hj)⟩
    · rw [hr] at hr'
      cases hr'
  counted := by
    intro n r e hr he
    rcases course_cases (c := c) (j := j) s n with ⟨r', hr', hreached⟩ | ⟨hr', -⟩
    · obtain rfl : r' = r := Except.ok.inj (hr'.symm.trans hr)
      have hbounded := (reached_fits hreached).bounded
      have hlt := bound_lt hj
      rw [finish_result_error he]
      omega
    · rw [hr] at hr'
      cases hr'
  settled := fun n h m => course_of_ended h m
  loop := fun more => runFrom_add more (start_fits j) (Nat.le_of_eq rest_start)

/-- A run that is allowed as many attempts as a word can count. -/
theorem endsInTime_most_attempts :
    let j : Job := ⟨⟨.plain, {}, "A", "ATest", ""⟩, "", ⟨"ATest.java"⟩, .empty, 4294967295⟩
    j.maxAttempts < UInt32.size ∧ j.bound = 4294967295 ∧ j.stepBound = 12884901884 ∧
      EndsInTime scripted j ([], []) := by
  intro j
  have hj : j.maxAttempts < UInt32.size := by decide
  exact ⟨hj, rfl, rfl, run_endsInTime scripted hj ([], [])⟩

end Repair
end Testsmith
