/-
# A repair run, attempt by attempt

An attempt asks the provider once, and the verifier once if there is code in the answer (`attempt`).
Attempts in a row are made whatever they come to (`attempts`); a run makes those up to the first at
which the verifier cannot be run or approves the test (`untilDecided`). What a run comes to is read
off these attempts without its states: the calls, the result, the records and the tokens
(`outcome_eq`).

The induction is on the attempts left. An attempt that decides nothing leads from the state before it
to the state before the next one, with its record, its log and its tokens added (`Run.with`).

Key definitions: `codeIn`, `Turn`, `attempt`, `attempts`, `untilDecided`, `FollowsAttempts`.
Key theorems: `runFrom_attempts`, `outcome_eq`, `outcome_followsAttempts`.
-/
import Testsmith.Proofs.Repair.Approval
import Testsmith.Proofs.Repair.Records
import Testsmith.Proofs.Repair.Tokens

namespace Testsmith
namespace Repair

/-- The code in an answer, or why there is none. -/
def codeIn : Except GenerationError Reply → Except GenerationError String
  | .error e => .error e
  | .ok reply => if (stripFences reply.text).isEmpty then .error .empty else .ok reply.text

/-- The test that is made of code. -/
def Job.testOf (j : Job) (code : String) : Artifact :=
  .ofResolved j.package j.request.testClass
    (resolveImports code j.package j.request.className j.index) j.destination

/-- What was asked and answered in an attempt. -/
structure Turn where
  prompt : String
  answer : Except GenerationError Reply
  /-- The test and what the verifier says to it. Without code there is none. -/
  build : Option (Artifact × Except VerifyError Verification)

namespace Turn

def calls (t : Turn) : List Call :=
  .generate t.prompt t.answer :: (t.build.map fun b => Call.verify b.1 b.2).toList

/-- The verifier could not be run, or it approved the test. -/
def decides (t : Turn) : Bool :=
  match t.build with
  | some (_, .error _) => true
  | some (_, .ok v) => v.success
  | none => false

/-- The log of a build that failed. -/
def log? (t : Turn) : Option String :=
  match t.build with
  | some (_, .ok v) => if v.success then none else some v.log
  | _ => none

/-- The record of an attempt with the given number. -/
def record (t : Turn) (number : Nat) : Attempt where
  index := number
  prompt := t.prompt
  rawText := (codeIn t.answer).toOption
  imports := (t.build.map (·.1.imports)).getD []
  compiled := t.build matches some (_, .ok ⟨true, _⟩)
  failureLog := t.log?
  generationError :=
    match codeIn t.answer with
    | .error e => some e
    | .ok _ => none

end Turn

/-- The records of attempts, numbered from one. -/
def records (ts : List Turn) : List Attempt := ts.mapIdx fun i t => t.record (i + 1)

/-- The tokens that attempts take: those of every answer with a text, code or not. -/
def tokens (ts : List Turn) : TokenUsage := totalUsage (ts.flatMap Turn.calls)

variable {σ : Type} (c : Collaborators σ) (j : Job)

/-- An attempt after builds that failed with the given logs. -/
def attempt (failures : List String) (s : σ) : Turn × σ :=
  let prompt := j.request.prompt failures
  let (answer, s) := c.generate prompt s
  match codeIn answer with
  | .error _ => (⟨prompt, answer, none⟩, s)
  | .ok code =>
    let (result, s) := c.verify (j.testOf code) s
    (⟨prompt, answer, some (j.testOf code, result)⟩, s)

/-- So many attempts one after another, whatever they come to. -/
def attempts : (count : Nat) → (failures : List String) → σ → List Turn
  | 0, _, _ => []
  | count + 1, failures, s =>
    let (t, s) := attempt c j failures s
    t :: attempts count (failures ++ t.log?.toList) s

/-- The attempts up to the first that decides. -/
def untilDecided : List Turn → List Turn
  | [] => []
  | t :: ts => if t.decides then [t] else t :: untilDecided ts

/-- The attempts that a run makes. -/
def made (s : σ) : List Turn := untilDecided (attempts c j j.bound [] s)

/-- How a run ends that makes the attempts, by what the verifier said to the last test. -/
def ending (ts : List Turn) : Except Halt Outcome :=
  match ts.getLast?.bind (·.build) with
  | some (_, .error e) => .error (.verify e)
  | some (artifact, .ok v) =>
    .ok ⟨if v.success then .ok artifact else .error ⟨ts.length, some v.log⟩, records ts, tokens ts⟩
  | none => .ok ⟨.error ⟨ts.length, none⟩, records ts, tokens ts⟩

variable {c j}

/-! ### The attempts in a row -/

theorem untilDecided_of_decides {t : Turn} (h : t.decides = true) (ts : List Turn) :
    untilDecided (t :: ts) = [t] := if_pos h

theorem untilDecided_of_not_decides {t : Turn} (h : t.decides = false) (ts : List Turn) :
    untilDecided (t :: ts) = t :: untilDecided ts := if_neg (by simp [h])

theorem untilDecided_append {t : Turn} {later : List Turn} (ht : t.decides = true) :
    ∀ {earlier : List Turn}, (∀ e ∈ earlier, e.decides = false) →
      untilDecided (earlier ++ t :: later) = earlier ++ [t]
  | [], _ => untilDecided_of_decides ht later
  | e :: earlier, he => by
    rw [List.forall_mem_cons] at he
    rw [List.cons_append, untilDecided_of_not_decides he.1, untilDecided_append ht he.2,
      List.cons_append]

theorem untilDecided_of_forall : ∀ {ts : List Turn}, (∀ t ∈ ts, t.decides = false) →
    untilDecided ts = ts
  | [], _ => rfl
  | t :: ts, h => by
    rw [List.forall_mem_cons] at h
    rw [untilDecided_of_not_decides h.1, untilDecided_of_forall h.2]

theorem untilDecided_ne_nil {ts : List Turn} (h : ts ≠ []) : untilDecided ts ≠ [] := by
  cases ts with
  | nil => exact absurd rfl h
  | cons t ts =>
    rw [untilDecided]
    split <;> simp

theorem length_attempts (count : Nat) (failures : List String) (s : σ) :
    (attempts c j count failures s).length = count := by
  induction count generalizing failures s with
  | zero => rfl
  | succ count ih => simp [attempts, ih]

theorem tokens_cons (t : Turn) (ts : List Turn) : tokens (t :: ts) = tokens [t] + tokens ts := by
  simp only [tokens, List.flatMap_cons, List.flatMap_nil, List.append_nil, totalUsage_append]

/-- What happens in an attempt. -/
theorem attempt_cases {failures : List String} {s s' : σ} {t : Turn}
    (h : attempt c j failures s = (t, s')) :
    t.prompt = j.request.prompt failures ∧ ∃ s₁, c.generate t.prompt s = (t.answer, s₁) ∧
      ((∃ e, codeIn t.answer = .error e ∧ t.build = none ∧ s' = s₁) ∨
        ∃ code result, codeIn t.answer = .ok code ∧ c.verify (j.testOf code) s₁ = (result, s') ∧
          t.build = some (j.testOf code, result)) := by
  rw [attempt] at h
  cases hanswer : c.generate (j.request.prompt failures) s with
  | mk answer s₁ =>
    simp only [hanswer] at h
    cases hcode : codeIn answer with
    | error e =>
      simp only [hcode, Prod.mk.injEq] at h
      obtain ⟨rfl, rfl⟩ := h
      exact ⟨rfl, s₁, hanswer, Or.inl ⟨e, hcode, rfl, rfl⟩⟩
    | ok code =>
      simp only [hcode, Prod.mk.injEq] at h
      obtain ⟨rfl, rfl⟩ := h
      exact ⟨rfl, s₁, hanswer, Or.inr ⟨code, _, hcode, rfl, rfl⟩⟩

/-- The verifier is asked about the test of the code, if there is any. -/
theorem build_attempt {failures : List String} {s s' : σ} {t : Turn}
    (h : attempt c j failures s = (t, s')) :
    t.build.map (·.1) = (codeIn t.answer).toOption.map j.testOf := by
  obtain ⟨-, s₁, -, ⟨e, hcode, hbuild, -⟩ | ⟨code, result, hcode, -, hbuild⟩⟩ := attempt_cases h
  · rw [hcode, hbuild]
    rfl
  · rw [hcode, hbuild]
    rfl

theorem build_of_mem_attempts {t : Turn} : ∀ {count : Nat} {failures : List String} {s : σ},
    t ∈ attempts c j count failures s →
      t.build.map (·.1) = (codeIn t.answer).toOption.map j.testOf
  | 0, _, _, h => absurd h List.not_mem_nil
  | count + 1, failures, s, h => by
    rw [attempts] at h
    rcases List.mem_cons.mp h with rfl | h
    · exact build_attempt (Prod.eta _).symm
    · exact build_of_mem_attempts h

theorem untilDecided_subset : ∀ {ts : List Turn} {t : Turn}, t ∈ untilDecided ts → t ∈ ts
  | [], _, h => h
  | t' :: ts, t, h => by
    rw [untilDecided] at h
    split at h
    · exact List.mem_cons.mpr (Or.inl (List.mem_singleton.mp h))
    · rcases List.mem_cons.mp h with rfl | h
      · exact List.mem_cons_self
      · exact List.mem_cons_of_mem _ (untilDecided_subset h)

/-! ### One attempt -/

/-- The run with one more attempt. Its state is left as it was. -/
def Run.extend (r : Run) (t : Turn) : Run :=
  { r with
    failures := r.failures ++ t.log?.toList
    attempts := r.attempts ++ [t.record (r.attempts.length + 1)]
    usage := r.usage + tokens [t] }

/-- The state after an attempt with the given number, unless the verifier could not be run. -/
def Job.after (j : Job) (k : Nat) (t : Turn) : Except VerifyError State :=
  match t.build with
  | none => .ok (j.afterFailure k)
  | some (_, .error e) => .error e
  | some (artifact, .ok v) => .ok (if v.success then .success artifact else j.afterFailure k)

theorem runFrom_of_step {r next : Run} {s s' : σ} (hr : r.state.isTerminal = false)
    (h : step c j r s = (.ok ⟨next, none⟩, s')) (n : Nat) :
    runFrom c j (n + 1) r s = runFrom c j n next s' ∧
      callsFrom c j (n + 1) r s = callsOf c j r s ++ callsFrom c j n next s' := by
  rw [runFrom, callsFrom, hr, h]
  exact ⟨rfl, rfl⟩

theorem runFrom_terminal {r : Run} (hr : r.state.isTerminal = true) (n : Nat) (s : σ) :
    runFrom c j n r s = (.ok r.finish, s) ∧ callsFrom c j n r s = [] := by
  cases n with
  | zero => exact ⟨rfl, rfl⟩
  | succ n =>
    rw [runFrom, callsFrom, hr]
    exact ⟨rfl, rfl⟩

section
variable {r : Run} {k : Nat} {s s₁ : σ} {answer : Except GenerationError Reply} {usage : TokenUsage}
  (hr : r.state = .generating k)
  (hanswer : c.generate (j.request.prompt r.failures) s = (answer, s₁))
  (husage : r.usage + (Call.generate (j.request.prompt r.failures) answer).usage = usage)
  (hfits : usage.Fits)

include hr hanswer husage hfits

/-- A step in which there is no code in the answer. -/
theorem step_rejected {e : GenerationError} (hcode : codeIn answer = .error e) :
    step c j r s = (.ok { run := j.rejectGeneration k r usage e }, s₁) := by
  subst husage
  rw [step, hr]
  simp only [hanswer]
  cases answer with
  | error e' =>
    obtain rfl : e' = e := Except.error.inj hcode
    rfl
  | ok reply =>
    simp only [Job.afterReply, Call.usage] at hfits ⊢
    rw [TokenUsage.add?_of_fits hfits]
    rw [codeIn] at hcode
    split at hcode
    · rename_i hempty
      rw [← Except.error.inj hcode]
      simp only [hempty, if_true]
      rfl
    · cases hcode

/-- A step in which there is code in the answer. -/
theorem step_accepted {code : String} (hcode : codeIn answer = .ok code) :
    step c j r s = (.ok { run := j.acceptGeneration k r usage code }, s₁) := by
  subst husage
  rw [step, hr]
  simp only [hanswer]
  cases answer with
  | error e' => cases hcode
  | ok reply =>
    simp only [Job.afterReply, Call.usage] at hfits ⊢
    rw [TokenUsage.add?_of_fits hfits]
    rw [codeIn] at hcode
    split at hcode
    · cases hcode
    · rename_i hfull
      rw [← Except.ok.inj hcode]
      simp only [hfull]
      rfl

end

/-- The tokens of an attempt are those of its answer. -/
theorem tokens_singleton (t : Turn) : tokens [t] = (Call.generate t.prompt t.answer).usage := by
  rw [tokens, List.flatMap_singleton, Turn.calls, totalUsage_cons]
  cases t.build with
  | none => rfl
  | some b => rfl

/-- Building the code of an attempt completes its record. -/
theorem afterBuild_acceptGeneration {r : Run} {k : Nat} {t : Turn} {code : String}
    {v : Verification} (hk : r.attempts.length + 1 = k)
    (hprompt : t.prompt = j.request.prompt r.failures) (hcode : codeIn t.answer = .ok code)
    (hbuild : t.build = some (j.testOf code, .ok v)) :
    j.afterBuild k (j.testOf code) (j.acceptGeneration k r (r.usage + tokens [t]) code) v =
      { r.extend t with
        state := if v.success then .success (j.testOf code) else j.afterFailure k } := by
  obtain ⟨success, log⟩ := v
  cases success with
  | true =>
    simp [Job.afterBuild, Job.acceptGeneration, mapLast_append, Run.extend, Turn.record, Turn.log?,
      hprompt, hcode, hbuild, hk, Except.toOption]
    rfl
  | false =>
    simp [Job.afterBuild, Job.acceptGeneration, mapLast_append, Run.extend, Turn.record, Turn.log?,
      hprompt, hcode, hbuild, hk, Except.toOption]
    rfl

section
variable {r : Run} {k : Nat} {s s₁ s' : σ} {t : Turn} (hr : r.state = .generating k)
  (hprompt : t.prompt = j.request.prompt r.failures)
  (hanswer : c.generate t.prompt s = (t.answer, s₁)) (hfits : (r.usage + tokens [t]).Fits)

include hr hprompt hanswer

theorem callsOf_generating : callsOf c j r s = [.generate t.prompt t.answer] := by
  rw [callsOf, hr, ← hprompt]
  dsimp only
  rw [hanswer]

include hfits

/-- An attempt without code in its answer is one step. -/
theorem runFrom_codeless (hk : r.attempts.length + 1 = k) {e : GenerationError}
    (hcode : codeIn t.answer = .error e) (hbuild : t.build = none) (n : Nat) :
    runFrom c j (n + 1) r s =
        runFrom c j n { r.extend t with state := j.afterFailure k } s₁ ∧
      callsFrom c j (n + 1) r s =
        t.calls ++ callsFrom c j n { r.extend t with state := j.afterFailure k } s₁ := by
  have husage : r.usage + (Call.generate (j.request.prompt r.failures) t.answer).usage =
      r.usage + tokens [t] := by rw [tokens_singleton, hprompt]
  have hstep := step_rejected hr (hprompt ▸ hanswer) husage hfits hcode
  have hnext : j.rejectGeneration k r (r.usage + tokens [t]) e =
      { r.extend t with state := j.afterFailure k } := by
    simp [Job.rejectGeneration, Run.extend, Turn.record, Turn.log?, hcode, hk, hbuild, hprompt,
      Except.toOption]
  have hcalls : t.calls = [.generate t.prompt t.answer] := by rw [Turn.calls, hbuild]; rfl
  rw [hcalls, ← callsOf_generating hr hprompt hanswer, ← hnext]
  exact runFrom_of_step (by rw [hr]; rfl) hstep n

variable {code : String} (hcode : codeIn t.answer = .ok code)

include hcode

/-- The first step of one with code takes the code up. -/
theorem runFrom_accepted (n : Nat) :
    let next := j.acceptGeneration k r (r.usage + tokens [t]) code
    runFrom c j (n + 1) r s = runFrom c j n next s₁ ∧
      callsFrom c j (n + 1) r s =
        [.generate t.prompt t.answer] ++ callsFrom c j n next s₁ := by
  have husage : r.usage + (Call.generate (j.request.prompt r.failures) t.answer).usage =
      r.usage + tokens [t] := by rw [tokens_singleton, hprompt]
  have hstep := step_accepted hr (hprompt ▸ hanswer) husage hfits hcode
  rw [← callsOf_generating hr hprompt hanswer]
  exact runFrom_of_step (by rw [hr]; rfl) hstep n

/-- The second one ends the run if the verifier cannot be run. -/
theorem runFrom_unbuilt {e : VerifyError}
    (hresult : c.verify (j.testOf code) s₁ = (.error e, s'))
    (hbuild : t.build = some (j.testOf code, .error e)) (n : Nat) :
    runFrom c j (n + 2) r s = (.error (.verify e), s') ∧
      callsFrom c j (n + 2) r s = t.calls := by
  obtain ⟨hrun, hmade⟩ := runFrom_accepted hr hprompt hanswer hfits hcode (n + 1)
  generalize hnext : j.acceptGeneration k r (r.usage + tokens [t]) code = next at hrun hmade
  have hstate : next.state = .compiling k (j.testOf code) := by rw [← hnext]; rfl
  have hstep : step c j next s₁ = (.ok ⟨{ next with state := .failed }, some e⟩, s') := by
    rw [step, hstate]
    simp only [hresult]
  rw [hrun, hmade, runFrom, callsFrom, hstate, hstep, callsOf, hstate, Turn.calls, hbuild]
  simp only [hresult]
  exact ⟨rfl, rfl⟩

/-- Else it completes the attempt. -/
theorem runFrom_built (hk : r.attempts.length + 1 = k) {v : Verification}
    (hresult : c.verify (j.testOf code) s₁ = (.ok v, s'))
    (hbuild : t.build = some (j.testOf code, .ok v)) (n : Nat) :
    let last := { r.extend t with
      state := if v.success then .success (j.testOf code) else j.afterFailure k }
    runFrom c j (n + 2) r s = runFrom c j n last s' ∧
      callsFrom c j (n + 2) r s = t.calls ++ callsFrom c j n last s' := by
  intro last
  obtain ⟨hrun, hmade⟩ := runFrom_accepted hr hprompt hanswer hfits hcode (n + 1)
  have hlast : j.afterBuild k (j.testOf code) _ v = last :=
    afterBuild_acceptGeneration hk hprompt hcode hbuild
  generalize hnext : j.acceptGeneration k r (r.usage + tokens [t]) code = next at hrun hmade hlast
  have hstate : next.state = .compiling k (j.testOf code) := by rw [← hnext]; rfl
  have hstep : step c j next s₁ = (.ok ⟨last, none⟩, s') := by
    rw [step, hstate, ← hlast]
    simp only [hresult]
  have hbuilt : callsOf c j next s₁ = [.verify (j.testOf code) (.ok v)] := by
    rw [callsOf, hstate]
    simp only [hresult]
  obtain ⟨hrun', hmade'⟩ := runFrom_of_step (by rw [hstate]; rfl) hstep n
  rw [hrun, hrun', hmade, hmade', hbuilt, Turn.calls, hbuild]
  exact ⟨rfl, rfl⟩

end

section
variable {r : Run} {k : Nat} {s s' : σ} {t : Turn} (hr : r.state = .generating k)
  (hk : r.attempts.length + 1 = k) (ht : attempt c j r.failures s = (t, s'))
  (hfits : (r.usage + tokens [t]).Fits)

include hr hk ht hfits

/-- **An attempt, in one or two steps.** It makes the calls of the attempt and leads to the state
after it, or the verifier cannot be run. -/
theorem runFrom_attempt : ∃ taken, taken ≤ 2 ∧ ∀ n,
    match j.after k t with
    | .error e => runFrom c j (n + taken) r s = (.error (.verify e), s') ∧
        callsFrom c j (n + taken) r s = t.calls
    | .ok next => runFrom c j (n + taken) r s = runFrom c j n { r.extend t with state := next } s' ∧
        callsFrom c j (n + taken) r s =
          t.calls ++ callsFrom c j n { r.extend t with state := next } s' := by
  obtain ⟨hprompt, s₁, hanswer, hcases⟩ := attempt_cases ht
  rcases hcases with ⟨e, hcode, hbuild, rfl⟩ | ⟨code, result, hcode, hresult, hbuild⟩
  · refine ⟨1, by decide, fun n => ?_⟩
    simp only [Job.after, hbuild]
    exact runFrom_codeless hr hprompt hanswer hfits hk hcode hbuild n
  · refine ⟨2, Nat.le_refl 2, fun n => ?_⟩
    simp only [Job.after, hbuild]
    cases result with
    | error e => exact runFrom_unbuilt hr hprompt hanswer hfits hcode hresult hbuild n
    | ok v => exact runFrom_built hr hprompt hanswer hfits hcode hk hresult hbuild n

end

/-! ### All attempts -/

/-- How a run ends that has made the attempts, the last of them as told. -/
def Run.endAfter (r : Run) (ts : List Turn) : Except Halt Outcome :=
  match ts.getLast?.bind (·.build) with
  | some (_, .error e) => .error (.verify e)
  | some (artifact, .ok v) =>
    .ok { r with state := if v.success then .success artifact else .failed }.finish
  | none => .ok { r with state := .failed }.finish

theorem foldl_extend_state (st : State) : ∀ (ts : List Turn) (r : Run),
    ts.foldl Run.extend { r with state := st } = { ts.foldl Run.extend r with state := st }
  | [], _ => rfl
  | t :: ts, r => foldl_extend_state st ts (r.extend t)

theorem foldl_extend (ts : List Turn) (r : Run) :
    (ts.foldl Run.extend r).attempts =
        r.attempts ++ ts.mapIdx (fun i t => t.record (r.attempts.length + (i + 1))) ∧
      (ts.foldl Run.extend r).usage = r.usage + tokens ts := by
  induction ts generalizing r with
  | nil => exact ⟨(List.append_nil _).symm, rfl⟩
  | cons t ts ih =>
    obtain ⟨hattempts, husage⟩ := ih (r.extend t)
    rw [List.foldl_cons, hattempts, husage, tokens_cons, ← add_assoc]
    refine ⟨?_, rfl⟩
    simp only [Run.extend, List.mapIdx_cons, List.append_assoc, List.singleton_append,
      List.length_append, List.length_singleton, Nat.zero_add]
    congr 3
    funext i t
    congr 1
    omega

theorem Run.endAfter_state (r : Run) (st : State) (ts : List Turn) :
    { r with state := st }.endAfter ts = r.endAfter ts := rfl

theorem Run.endAfter_cons (r : Run) (t : Turn) {ts : List Turn} (h : ts ≠ []) :
    r.endAfter (t :: ts) = r.endAfter ts := by
  rw [endAfter, endAfter, List.getLast?_cons_of_ne_nil h]

theorem afterFailure_bound (j : Job) : j.afterFailure j.bound = .failed :=
  if_neg (Nat.lt_irrefl _)

theorem afterFailure_of_lt {k : Nat} (h : k < j.bound) : j.afterFailure k = .retrying k := if_pos h

/-- The state after an attempt that decides, or that is the last one allowed, ends a run. -/
theorem after_last {k : Nat} {t : Turn} (hlast : t.decides = true ∨ k = j.bound) (r : Run) :
    match j.after k t with
    | .error e => r.endAfter [t] = .error (.verify e)
    | .ok next => next.isTerminal = true ∧ r.endAfter [t] = .ok { r with state := next }.finish := by
  rw [Turn.decides] at hlast
  simp only [Job.after, Run.endAfter, List.getLast?_singleton, Option.bind_some]
  rcases hbuild : t.build with _ | ⟨artifact, e | v⟩
  · obtain rfl : k = j.bound := by simpa [hbuild] using hlast
    rw [afterFailure_bound]
    exact ⟨rfl, rfl⟩
  · rfl
  · cases hv : v.success with
    | true => simp [hv, State.isTerminal]
    | false =>
      obtain rfl : k = j.bound := by simpa [hbuild, hv] using hlast
      simp [hv, afterFailure_bound, State.isTerminal]

/-- After an attempt that decides nothing another may follow. -/
theorem after_of_not_decides {k : Nat} {t : Turn} (h : t.decides = false) :
    j.after k t = .ok (j.afterFailure k) := by
  rw [Turn.decides] at h
  rw [Job.after]
  rcases hbuild : t.build with _ | ⟨artifact, e | v⟩
  · rfl
  · simp [hbuild] at h
  · simp only [hbuild] at h
    simp [h]

section
variable {r : Run} {k fuel : Nat} {s s' : σ} {t : Turn} (hr : r.state = .generating k)
  (hk : r.attempts.length + 1 = k) (ht : attempt c j r.failures s = (t, s'))
  (hfits : (r.usage + tokens [t]).Fits)

include hr hk ht hfits

/-- An attempt that decides, or that is the last one allowed, ends the run. -/
theorem runFrom_attempt_last (hlast : t.decides = true ∨ k = j.bound) (hfuel : 2 ≤ fuel) :
    runFrom c j fuel r s = ((r.extend t).endAfter [t], s') ∧ callsFrom c j fuel r s = t.calls := by
  obtain ⟨taken, htaken, hrun⟩ := runFrom_attempt hr hk ht hfits
  obtain ⟨n, rfl⟩ : ∃ n, fuel = n + taken := ⟨fuel - taken, by omega⟩
  have hend := after_last hlast (r.extend t)
  specialize hrun n
  cases hafter : j.after k t with
  | error e =>
    simp only [hafter] at hrun hend
    rw [hend]
    exact hrun
  | ok next =>
    simp only [hafter] at hrun hend
    obtain ⟨hstopped, hnone⟩ := runFrom_terminal (c := c) (j := j)
      (r := { r.extend t with state := next }) hend.1 n s'
    rw [hrun.1, hrun.2, hstopped, hnone, hend.2, List.append_nil]
    exact ⟨rfl, rfl⟩

/-- An attempt that decides nothing leads to the next one. -/
theorem runFrom_attempt_next (hlost : t.decides = false) (hlt : k < j.bound) (hfuel : 3 ≤ fuel) :
    ∃ rest, fuel ≤ rest + 3 ∧
      runFrom c j fuel r s = runFrom c j rest { r.extend t with state := .generating (k + 1) } s' ∧
      callsFrom c j fuel r s =
        t.calls ++ callsFrom c j rest { r.extend t with state := .generating (k + 1) } s' := by
  obtain ⟨taken, htaken, hrun⟩ := runFrom_attempt hr hk ht hfits
  obtain ⟨rest, rfl⟩ : ∃ rest, fuel = rest + 1 + taken := ⟨fuel - 1 - taken, by omega⟩
  specialize hrun (rest + 1)
  simp only [after_of_not_decides hlost, afterFailure_of_lt hlt] at hrun
  have hstep : step c j { r.extend t with state := .retrying k } s' =
      (.ok ⟨{ r.extend t with state := .generating (k + 1) }, none⟩, s') := rfl
  obtain ⟨hnext, hcalls⟩ := runFrom_of_step rfl hstep rest
  refine ⟨rest, by omega, ?_, ?_⟩
  · rw [hrun.1, hnext]
  · rw [hrun.2, hcalls]
    rfl

end

/-- **A run makes its attempts up to the first that decides.** -/
theorem runFrom_attempts : ∀ (count fuel : Nat) {r : Run} {k : Nat} {s : σ},
    r.state = .generating k → r.attempts.length + 1 = k → k + count = j.bound →
      3 * count + 2 ≤ fuel →
      (r.usage + tokens (untilDecided (attempts c j (count + 1) r.failures s))).Fits →
      (runFrom c j fuel r s).1 =
          ((untilDecided (attempts c j (count + 1) r.failures s)).foldl Run.extend r).endAfter
            (untilDecided (attempts c j (count + 1) r.failures s)) ∧
        callsFrom c j fuel r s =
          (untilDecided (attempts c j (count + 1) r.failures s)).flatMap Turn.calls := by
  intro count
  induction count with
  | zero =>
    intro fuel r k s hr hk hbound hfuel hfits
    cases ht : attempt c j r.failures s with
    | mk t s' =>
      have hone : untilDecided (attempts c j (0 + 1) r.failures s) = [t] := by
        rw [attempts, ht]
        simp [attempts, untilDecided]
      rw [hone] at hfits ⊢
      have hlast : k = j.bound := by omega
      have htwo : 2 ≤ fuel := by omega
      obtain ⟨hrun, hcalls⟩ := runFrom_attempt_last hr hk ht hfits (Or.inr hlast) htwo
      rw [hrun, hcalls]
      exact ⟨rfl, (List.flatMap_singleton _ _).symm⟩
  | succ count ih =>
    intro fuel r k s hr hk hbound hfuel hfits
    have hlt : k < j.bound := by omega
    have hthree : 3 ≤ fuel := by omega
    cases ht : attempt c j r.failures s with
    | mk t s' =>
      rw [attempts, ht] at hfits ⊢
      cases hdec : t.decides with
      | true =>
        simp only [untilDecided_of_decides hdec] at hfits ⊢
        obtain ⟨hrun, hcalls⟩ := runFrom_attempt_last hr hk ht hfits (Or.inl hdec)
          (Nat.le_of_succ_le hthree)
        rw [hrun, hcalls]
        exact ⟨rfl, (List.flatMap_singleton _ _).symm⟩
      | false =>
        simp only [untilDecided_of_not_decides hdec] at hfits ⊢
        rw [tokens_cons, ← add_assoc] at hfits
        have hfirst : (r.usage + tokens [t]).Fits := hfits.mono (TokenUsage.le_add_right _ _)
        obtain ⟨rest, hrest, hrun, hcalls⟩ :=
          runFrom_attempt_next hr hk ht hfirst hdec hlt hthree
        obtain ⟨hrun', hcalls'⟩ :=
          ih rest (r := { r.extend t with state := .generating (k + 1) }) (s := s') rfl
            (by simp [Run.extend]; omega) (by omega) (by omega) hfits
        rw [hrun, hcalls, hrun', hcalls', foldl_extend_state, Run.endAfter_state,
          Run.endAfter_cons _ t (untilDecided_ne_nil (by simp [attempts])), List.flatMap_cons]
        exact ⟨rfl, rfl⟩

theorem length_untilDecided_le (ts : List Turn) : (untilDecided ts).length ≤ ts.length := by
  induction ts with
  | nil => exact Nat.le_refl 0
  | cons t ts ih =>
    rw [untilDecided]
    split <;> simp [ih]

theorem length_made_le (s : σ) : (made c j s).length ≤ j.bound := by
  have hle := length_untilDecided_le (attempts c j j.bound [] s)
  rwa [length_attempts] at hle

/-- The run with the records of the attempts ends as its last attempt says. -/
theorem endAfter_start {ts : List Turn} (h : ts.length < UInt32.size) :
    (ts.foldl Run.extend .start).endAfter ts = ending ts := by
  obtain ⟨hrecords, husage⟩ := foldl_extend ts .start
  replace hrecords : (ts.foldl Run.extend .start).attempts = records ts := by
    simpa [Run.start, records] using hrecords
  replace husage : (ts.foldl Run.extend .start).usage = tokens ts := by
    rw [husage]
    exact zero_add _
  have hcount : min (records ts).length (UInt32.size - 1) = ts.length := by
    rw [records, List.length_mapIdx]
    omega
  have hlog : (records ts).getLast?.bind (·.failureLog) = ts.getLast?.bind Turn.log? := by
    rw [records, List.getLast?_mapIdx]
    cases ts.getLast? <;> rfl
  rw [Run.endAfter, ending]
  cases hlast : ts.getLast? with
  | none =>
    rw [hlast] at hlog
    simp only [Option.bind_none, Run.finish, hrecords, husage, hcount, hlog]
  | some t =>
    rw [hlast] at hlog
    simp only [Option.bind_some, Turn.log?] at hlog ⊢
    rcases hbuild : t.build with _ | ⟨artifact, e | v⟩
    · simp only [hbuild] at hlog
      simp only [Run.finish, hrecords, husage, hcount, hlog]
    · rfl
    · simp only [hbuild] at hlog
      cases hv : v.success with
      | true => simp [Run.finish, hrecords, husage, hv]
      | false =>
        simp only [hv, Bool.false_eq_true, if_false] at hlog ⊢
        simp only [Run.finish, hrecords, husage, hcount, hlog]

theorem start_usage (u : TokenUsage) : TokenUsage.zero + u = u := zero_add u

/-- **What a run comes to is read off its attempts.** -/
theorem outcome_eq (hj : j.maxAttempts < UInt32.size) {s : σ}
    (hfits : (tokens (made c j s)).Fits) :
    (outcome c j s).1 = ending (made c j s) ∧
      callsFrom c j j.stepBound .start s = (made c j s).flatMap Turn.calls := by
  have hone := one_le_bound j
  have hcount : j.bound - 1 + 1 = j.bound := by omega
  have hmade : untilDecided (attempts c j (j.bound - 1 + 1) Run.start.failures s) = made c j s := by
    rw [hcount]
    rfl
  obtain ⟨hrun, hcalls⟩ := runFrom_attempts (c := c) (j := j) (j.bound - 1) j.stepBound
    (r := .start) (s := s) rfl rfl (by omega) (by rw [Job.stepBound]; omega)
    (by rwa [hmade, Run.start, start_usage])
  rw [hmade] at hrun hcalls
  have hlength : (made c j s).length < UInt32.size :=
    Nat.lt_of_le_of_lt (length_made_le s) (bound_lt hj)
  rw [outcome, hrun, endAfter_start hlength]
  exact ⟨rfl, hcalls⟩

/-! ### What a run comes to -/

/-- The test that a call of the verifier is about. -/
def Call.verified? : Call → Option Artifact
  | .verify artifact _ => some artifact
  | .generate _ _ => none

theorem verified_calls (t : Turn) :
    t.calls.filterMap Call.verified? = (t.build.map (·.1)).toList := by
  rw [Turn.calls]
  cases t.build <;> rfl

/-- The tests that the verifier is asked about are those of the code in the answers. -/
theorem verified_flatMap_calls : ∀ {ts : List Turn},
    (∀ t ∈ ts, t.build.map (·.1) = (codeIn t.answer).toOption.map j.testOf) →
      (ts.flatMap Turn.calls).filterMap Call.verified? =
        ts.filterMap fun t => (codeIn t.answer).toOption.map j.testOf
  | [], _ => rfl
  | t :: ts, h => by
    rw [List.forall_mem_cons] at h
    rw [List.flatMap_cons, List.filterMap_append, verified_calls, verified_flatMap_calls h.2,
      List.filterMap_cons, h.1]
    cases (codeIn t.answer).toOption.map j.testOf <;> rfl

variable (c j)

/-- What a run comes to, by the attempts that would be made if none ended it. -/
structure FollowsAttempts (s : σ) : Prop where
  /-- The provider is called once for each attempt up to the first that decides, and the verifier
  after it if there is code in the answer. -/
  calls : callsFrom c j j.stepBound .start s = (made c j s).flatMap Turn.calls
  /-- The verifier is called exactly once for each attempt with code, in order, with the test that
  is made of the code. -/
  verified : (callsFrom c j j.stepBound .start s).filterMap Call.verified? =
    (made c j s).filterMap fun t => (codeIn t.answer).toOption.map j.testOf
  /-- The first attempt at which the verifier cannot be run ends the run with its error. -/
  stopped : ∀ earlier t later a e, attempts c j j.bound [] s = earlier ++ t :: later →
    (∀ t' ∈ earlier, t'.decides = false) → t.build = some (a, .error e) →
      (outcome c j s).1 = .error (.verify e)
  /-- The first attempt whose test the verifier approves ends the run with this test. -/
  approved : ∀ earlier t later a log, attempts c j j.bound [] s = earlier ++ t :: later →
    (∀ t' ∈ earlier, t'.decides = false) → t.build = some (a, .ok ⟨true, log⟩) →
      (outcome c j s).1 = .ok ⟨.ok a, records (earlier ++ [t]), tokens (earlier ++ [t])⟩
  /-- With no such attempt the run ends when all are used up, with the log of the last if its test
  was built. -/
  exhausted : (∀ t ∈ attempts c j j.bound [] s, t.decides = false) →
    (outcome c j s).1 = .ok ⟨.error ⟨j.bound, (attempts c j j.bound [] s).getLast?.bind Turn.log?⟩,
      records (attempts c j j.bound [] s), tokens (attempts c j j.bound [] s)⟩

variable {c j}

/-- **A repair run does what its attempts say.** -/
theorem outcome_followsAttempts (hj : j.maxAttempts < UInt32.size) {s : σ}
    (hfits : (tokens (made c j s)).Fits) : FollowsAttempts c j s := by
  obtain ⟨hrun, hcalls⟩ := outcome_eq hj hfits
  have hbuild : ∀ t ∈ made c j s, t.build.map (·.1) = (codeIn t.answer).toOption.map j.testOf :=
    fun t ht => build_of_mem_attempts (untilDecided_subset ht)
  refine ⟨hcalls, ?_, ?_, ?_, ?_⟩
  · rw [hcalls, verified_flatMap_calls hbuild]
  · intro earlier t later a e hsplit hearlier ht
    have hdecides : t.decides = true := by rw [Turn.decides, ht]
    rw [hrun, made, hsplit, untilDecided_append hdecides hearlier, ending]
    simp [ht]
  · intro earlier t later a log hsplit hearlier ht
    have hdecides : t.decides = true := by rw [Turn.decides, ht]
    rw [hrun, made, hsplit, untilDecided_append hdecides hearlier, ending]
    simp [ht]
  · intro hnone
    rw [hrun, made, untilDecided_of_forall hnone, ending, length_attempts]
    cases hlast : (attempts c j j.bound [] s).getLast? with
    | none => rfl
    | some t =>
      have hlost := hnone t (List.mem_of_getLast? hlast)
      rw [Turn.decides] at hlost
      simp only [Option.bind_some, Turn.log?]
      rcases ht : t.build with _ | ⟨artifact, e | v⟩
      · rfl
      · simp [ht] at hlost
      · simp only [ht] at hlost
        simp [hlost]

/-- A run of four attempts: no answer, an answer without code, a build that fails, and a test that
the verifier approves. -/
theorem followsAttempts_fourth_approved :
    let j : Job := ⟨⟨.plain, {}, "A", "ATest", ""⟩, "", ⟨"ATest.java"⟩, .empty, 5⟩
    let s : List (Except GenerationError Reply) × List (Except VerifyError Verification) :=
      ([.error (.network "reset"), .ok ⟨"", ⟨1, 2⟩⟩, .ok ⟨"class A {}", ⟨3, 4⟩⟩,
        .ok ⟨"class B {}", ⟨5, 6⟩⟩], [.ok ⟨false, "no symbol"⟩, .ok ⟨true, ""⟩])
    j.maxAttempts < UInt32.size ∧ (tokens (made scripted j s)).Fits ∧
      FollowsAttempts scripted j s ∧
      ∃ o, (outcome scripted j s).1 = .ok o ∧ o.result = .ok (j.testOf "class B {}") ∧
        o.attempts.length = 4 ∧ o.usage = ⟨9, 12⟩ := by
  intro j s
  have hj : j.maxAttempts < UInt32.size := by decide
  have hfits : (tokens (made scripted j s)).Fits := by decide +kernel
  have hfollows := outcome_followsAttempts hj hfits
  refine ⟨hj, hfits, hfollows, _, hfollows.approved ((attempts scripted j 5 [] s).take 3) _ _ _ _ rfl
    (by decide +kernel) rfl, rfl, rfl, rfl⟩

end Repair
end Testsmith
