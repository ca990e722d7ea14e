/-
# The records of a repair run

What holds of the records in every run that steps can lead to. They are numbered from one and there
is one for each attempt begun, all but the last of them finished; a finished one tells how the
attempt failed, or that its build succeeded, which only the last record of a successful run does.
The logs that later prompts are made from are those of the records.

The invariant (`Run.Fits`) says for each state how the records stand. A transition changes the last
record or adds one, so it is kept case by case (`fits_transition`).

Key definitions: `Attempt.Finished`, `Run.Fits`, `Run.Consistent`.
Key theorems: `reached_fits`, `reached_consistent`.
-/
import Testsmith.Proofs.Repair.Transition

namespace Testsmith
namespace Repair

/-! ### How an attempt stands -/

namespace Attempt

/-- There was no code to build. -/
structure Rejected (a : Attempt) : Prop where
  error : a.generationError.isSome = true
  text : a.rawText = none
  imports : a.imports = []
  log : a.failureLog = none
  compiled : a.compiled = false

/-- There is code that was not built yet. -/
structure Pending (a : Attempt) : Prop where
  error : a.generationError = none
  text : a.rawText.isSome = true
  log : a.failureLog = none
  compiled : a.compiled = false

/-- The build failed. -/
structure Broken (a : Attempt) : Prop where
  error : a.generationError = none
  text : a.rawText.isSome = true
  log : a.failureLog.isSome = true
  compiled : a.compiled = false

/-- The build succeeded. -/
structure Accepted (a : Attempt) : Prop where
  error : a.generationError = none
  text : a.rawText.isSome = true
  log : a.failureLog = none
  compiled : a.compiled = true

/-- The attempt came to its end without a test. -/
def Lost (a : Attempt) : Prop := a.Rejected ∨ a.Broken

/-- The record tells how the attempt ended: exactly one of an error, a log and success. With an
error there is nothing else, with a log there is the code. -/
structure Finished (a : Attempt) : Prop where
  one : [a.generationError.isSome, a.failureLog.isSome, a.compiled].count true = 1
  rejected : a.generationError.isSome = true →
    a.rawText = none ∧ a.imports = [] ∧ a.failureLog = none ∧ a.compiled = false
  broken : a.failureLog.isSome = true → a.rawText.isSome = true ∧ a.compiled = false

theorem Rejected.finished {a : Attempt} (h : a.Rejected) : a.Finished where
  one := by simp [h.error, h.log, h.compiled]
  rejected _ := ⟨h.text, h.imports, h.log, h.compiled⟩
  broken hl := by simp [h.log] at hl

theorem Broken.finished {a : Attempt} (h : a.Broken) : a.Finished where
  one := by simp [h.error, h.log, h.compiled]
  rejected he := by simp [h.error] at he
  broken _ := ⟨h.text, h.compiled⟩

theorem Accepted.finished {a : Attempt} (h : a.Accepted) : a.Finished where
  one := by simp [h.error, h.log, h.compiled]
  rejected he := by simp [h.error] at he
  broken hl := by simp [h.log] at hl

theorem Lost.finished {a : Attempt} (h : a.Lost) : a.Finished := by
  rcases h with h | h
  · exact h.finished
  · exact h.finished

theorem Lost.compiled {a : Attempt} (h : a.Lost) : a.compiled = false := by
  rcases h with h | h
  · exact Rejected.compiled h
  · exact Broken.compiled h

end Attempt

/-! ### The invariant -/

/-- All attempts but the last were lost, and the last stands as told. -/
def EndsWith (stands : Attempt → Prop) (as : List Attempt) : Prop :=
  ∃ past last, as = past ++ [last] ∧ stands last ∧ ∀ a ∈ past, a.Lost

/-- Some verifier call gave an error. -/
def VerifierFailed (calls : List Call) : Prop :=
  ∃ artifact e, Call.verify artifact (.error e) ∈ calls

/-- How the records stand in each state. -/
def Run.Stands (j : Job) (calls : List Call) (r : Run) : Prop :=
  match r.state with
  | .generating k => 1 ≤ k ∧ k ≤ j.bound ∧ r.attempts.length + 1 = k ∧ ∀ a ∈ r.attempts, a.Lost
  | .compiling k _ => k ≤ j.bound ∧ r.attempts.length = k ∧ EndsWith Attempt.Pending r.attempts
  | .retrying k => 1 ≤ k ∧ k < j.bound ∧ r.attempts.length = k ∧ ∀ a ∈ r.attempts, a.Lost
  | .success _ => r.attempts.length ≤ j.bound ∧ EndsWith Attempt.Accepted r.attempts
  | .failed => r.attempts.length ≤ j.bound ∧
      ((∀ a ∈ r.attempts, a.Lost) ∨ VerifierFailed calls ∧ EndsWith Attempt.Pending r.attempts)

/-- The invariant of a run. -/
structure Run.Fits (j : Job) (calls : List Call) (r : Run) : Prop where
  numbered : r.attempts.map (·.index) = List.range' 1 r.attempts.length
  logs : r.failures = r.attempts.filterMap (·.failureLog)
  stands : r.Stands j calls

section
variable {j : Job} {calls : List Call} {r : Run} (h : r.Fits j calls)

include h

theorem Run.Fits.generating {k : Nat} (hs : r.state = .generating k) :
    1 ≤ k ∧ k ≤ j.bound ∧ r.attempts.length + 1 = k ∧ ∀ a ∈ r.attempts, a.Lost := by
  have hst := h.stands
  simpa only [Run.Stands, hs] using hst

theorem Run.Fits.compiling {k : Nat} {artifact : Artifact} (hs : r.state = .compiling k artifact) :
    k ≤ j.bound ∧ r.attempts.length = k ∧ EndsWith Attempt.Pending r.attempts := by
  have hst := h.stands
  simpa only [Run.Stands, hs] using hst

theorem Run.Fits.retrying {k : Nat} (hs : r.state = .retrying k) :
    1 ≤ k ∧ k < j.bound ∧ r.attempts.length = k ∧ ∀ a ∈ r.attempts, a.Lost := by
  have hst := h.stands
  simpa only [Run.Stands, hs] using hst

theorem Run.Fits.success {artifact : Artifact} (hs : r.state = .success artifact) :
    r.attempts.length ≤ j.bound ∧ EndsWith Attempt.Accepted r.attempts := by
  have hst := h.stands
  simpa only [Run.Stands, hs] using hst

theorem Run.Fits.failed (hs : r.state = .failed) :
    r.attempts.length ≤ j.bound ∧
      ((∀ a ∈ r.attempts, a.Lost) ∨ VerifierFailed calls ∧ EndsWith Attempt.Pending r.attempts) := by
  have hst := h.stands
  simpa only [Run.Stands, hs] using hst

end

theorem one_le_bound (j : Job) : 1 ≤ j.bound := Nat.le_max_right _ _

/-- The attempts of a word are counted by words. -/
theorem bound_lt {j : Job} (h : j.maxAttempts < UInt32.size) : j.bound < UInt32.size :=
  Nat.max_lt.mpr ⟨h, by decide⟩

theorem start_fits (j : Job) : Run.start.Fits j [] where
  numbered := rfl
  logs := rfl
  stands := ⟨Nat.le_refl 1, one_le_bound j, rfl, fun a ha => by cases ha⟩

theorem mapLast_append (f : Attempt → Attempt) (a : Attempt) :
    ∀ as : List Attempt, mapLast f (as ++ [a]) = as ++ [f a]
  | [] => rfl
  | [b] => rfl
  | b :: b' :: as => by
    have := mapLast_append f a (b' :: as)
    simp only [List.cons_append] at this ⊢
    rw [mapLast, this]
    simp

/-- One more record with the next number. -/
theorem numbered_append {as : List Attempt} (a : Attempt)
    (h : as.map (·.index) = List.range' 1 as.length) (ha : as.length + 1 = a.index) :
    (as ++ [a]).map (·.index) = List.range' 1 (as ++ [a]).length := by
  rw [List.map_append, h, List.length_append, List.length_singleton, List.range'_concat,
    Nat.one_mul, Nat.add_comm 1, ha]
  rfl

/-- Another attempt follows a lost one, unless it was the last allowed. -/
theorem stands_afterFailure {j : Job} {calls : List Call} {k : Nat} {r : Run} (h1 : 1 ≤ k)
    (hk : k ≤ j.bound) (hs : r.state = j.afterFailure k) (hn : r.attempts.length = k)
    (hl : ∀ a ∈ r.attempts, a.Lost) : r.Stands j calls := by
  by_cases hlt : k < j.bound
  · have hr : r.state = .retrying k := by rw [hs, Job.afterFailure, if_pos hlt]
    simp only [Run.Stands, hr]
    exact ⟨h1, hlt, hn, hl⟩
  · have hr : r.state = .failed := by rw [hs, Job.afterFailure, if_neg hlt]
    simp only [Run.Stands, hr]
    exact ⟨hn ▸ hk, Or.inl hl⟩

theorem rejectGeneration_fits {j : Job} {calls calls' : List Call} {r : Run} {k : Nat}
    (h : r.Fits j calls) (hs : r.state = .generating k) (usage : TokenUsage) (e : GenerationError) :
    (j.rejectGeneration k r usage e).Fits j calls' := by
  obtain ⟨h1, hk, hn, hl⟩ := h.generating hs
  refine ⟨numbered_append _ h.numbered hn, ?_, ?_⟩
  · simpa [Job.rejectGeneration] using h.logs
  · refine stands_afterFailure h1 hk rfl (by simpa [Job.rejectGeneration] using hn) fun a ha => ?_
    rcases List.mem_append.mp ha with ha | ha
    · exact hl a ha
    · rw [List.mem_singleton.mp ha]
      exact Or.inl ⟨rfl, rfl, rfl, rfl, rfl⟩

theorem acceptGeneration_fits {j : Job} {calls calls' : List Call} {r : Run} {k : Nat}
    (h : r.Fits j calls) (hs : r.state = .generating k) (usage : TokenUsage) (text : String) :
    (j.acceptGeneration k r usage text).Fits j calls' := by
  obtain ⟨h1, hk, hn, hl⟩ := h.generating hs
  refine ⟨numbered_append _ h.numbered hn, ?_, ?_⟩
  · simpa [Job.acceptGeneration] using h.logs
  · exact ⟨hk, by simpa [Job.acceptGeneration] using hn, r.attempts, _, rfl,
      ⟨rfl, rfl, rfl, rfl⟩, hl⟩

theorem afterBuild_fits {j : Job} {calls calls' : List Call} {r : Run} {k : Nat}
    {artifact : Artifact}
    (h : r.Fits j calls) (hs : r.state = .compiling k artifact) (v : Verification) :
    (j.afterBuild k artifact r v).Fits j calls' := by
  obtain ⟨hk, hn, past, last, has, hp, hl⟩ := h.compiling hs
  have hlogs := h.logs
  have hnum := h.numbered
  rw [has] at hn hlogs hnum
  simp only [List.filterMap_append, List.filterMap_cons, hp.log, List.filterMap_nil,
    List.append_nil] at hlogs
  unfold Job.afterBuild
  split
  · -- the build succeeded, and no log is added
    refine ⟨?_, ?_, ?_⟩
    · simpa [has, mapLast_append] using hnum
    · simpa [has, mapLast_append, hp.log] using hlogs
    · refine ⟨?_, past, { last with compiled := true }, ?_, ⟨hp.error, hp.text, hp.log, rfl⟩, hl⟩
      · simp only [List.length_append, List.length_singleton] at hn
        simp [has, mapLast_append]
        omega
      · simp only [has, mapLast_append]
  · -- the build failed, so that the last attempt is lost as well
    refine ⟨?_, ?_, ?_⟩
    · simpa [has, mapLast_append] using hnum
    · simp [has, mapLast_append, hlogs]
    · refine stands_afterFailure (k := k) ?_ hk rfl ?_ fun a ha => ?_
      · simp at hn
        omega
      · simpa [has, mapLast_append] using hn
      · simp only [has, mapLast_append] at ha
        rcases List.mem_append.mp ha with ha | ha
        · exact hl a ha
        · rw [List.mem_singleton.mp ha]
          exact Or.inr ⟨hp.error, hp.text, rfl, hp.compiled⟩

/-- Whatever happens in a step, the run fits afterwards. -/
theorem fits_transition {σ : Type} {c : Collaborators σ} {j : Job} {past calls : List Call}
    {r : Run} {s s' : σ} {next : Step} (h : r.Fits j past) (ht : Transition c j r s calls next s') :
    next.run.Fits j (past ++ calls) := by
  cases ht with
  | unanswered hs _ => exact rejectGeneration_fits h hs _ _
  | blank hs _ _ _ => exact rejectGeneration_fits h hs _ _
  | answered hs _ _ _ => exact acceptGeneration_fits h hs _ _
  | @unbuilt k artifact e s' hs _ =>
    obtain ⟨hk, hn, hp⟩ := h.compiling hs
    refine ⟨h.numbered, h.logs, hn ▸ hk, Or.inr ⟨⟨artifact, e, ?_⟩, hp⟩⟩
    simp
  | built hs _ => exact afterBuild_fits h hs _
  | @retried k hs =>
    obtain ⟨-, hk, hn, hl⟩ := h.retrying hs
    exact ⟨h.numbered, h.logs, by simp, hk, by simp [hn], hl⟩
  | ended hs => simpa using h

/-- Every run that steps lead to fits. -/
theorem reached_fits {σ : Type} {c : Collaborators σ} {j : Job} {s₀ s : σ} {calls : List Call}
    {r : Run} (h : Reached c j s₀ calls r s) : r.Fits j calls := by
  induction h with
  | start => exact start_fits j
  | step _ taken ih => exact fits_transition ih (step_transition taken)

theorem eq_of_add? {a b sum : TokenUsage} (h : a.add? b = some sum) :
    sum = ⟨a.input + b.input, a.output + b.output⟩ := by
  obtain ⟨hi, ho, -⟩ := TokenUsage.add?_eq_some_iff.mp h
  rw [← hi, ← ho]

/-- A step adds the tokens of its call. -/
theorem usage_transition {σ : Type} {c : Collaborators σ} {j : Job} {past calls : List Call}
    {r : Run} {s s' : σ} {next : Step} (h : r.usage = totalUsage past)
    (ht : Transition c j r s calls next s') : next.run.usage = totalUsage (past ++ calls) := by
  cases ht with
  | unanswered _ _ =>
    rw [totalUsage_concat, ← h]
    rfl
  | blank _ _ hsum _ =>
    rw [totalUsage_concat, ← h]
    exact eq_of_add? hsum
  | answered _ _ hsum _ =>
    rw [totalUsage_concat, ← h]
    exact eq_of_add? hsum
  | unbuilt _ _ =>
    rw [totalUsage_concat, ← h]
    rfl
  | @built k artifact v _ _ _ =>
    have hu : (j.afterBuild k artifact r v).usage = r.usage := by
      unfold Job.afterBuild
      split <;> rfl
    rw [totalUsage_concat, hu, h]
    rfl
  | retried _ => simpa using h
  | ended _ => simpa using h

/-- The tokens on the account are those of the calls made. -/
theorem reached_usage {σ : Type} {c : Collaborators σ} {j : Job} {s₀ s : σ} {calls : List Call}
    {r : Run} (h : Reached c j s₀ calls r s) : r.usage = totalUsage calls := by
  induction h with
  | start => rfl
  | step _ taken ih => exact usage_transition ih (step_transition taken)

/-! ### What the invariant says -/

/-- What holds of the records of every run. -/
structure Run.Consistent (j : Job) (calls : List Call) (r : Run) : Prop where
  /-- The records are numbered in order, and there are no more than allowed. -/
  numbered : r.attempts.map (·.index) = List.range' 1 r.attempts.length
  bounded : r.attempts.length ≤ j.bound
  generating : ∀ k, r.state = .generating k → 1 ≤ k ∧ k ≤ j.bound ∧ r.attempts.length = k - 1
  compiling : ∀ k artifact, r.state = .compiling k artifact →
    1 ≤ k ∧ k ≤ j.bound ∧ r.attempts.length = k
  retrying : ∀ k, r.state = .retrying k → 1 ≤ k ∧ k < j.bound ∧ r.attempts.length = k
  /-- Only the last record may be unfinished, and only before its build has ended or when the build
  could not be run. -/
  finished : ∀ a ∈ r.attempts.dropLast, a.Finished
  unfinished : ∀ a, r.attempts.getLast? = some a → ¬a.Finished →
    (∃ k artifact, r.state = .compiling k artifact) ∨ VerifierFailed calls
  /-- A build succeeded just when the run did, and it was the last. -/
  compiled : (∃ a ∈ r.attempts, a.compiled = true) ↔ ∃ artifact, r.state = .success artifact
  compiledLast : ∀ a ∈ r.attempts.dropLast, a.compiled = false
  /-- The logs are those of the records, in order. -/
  logs : r.failures = r.attempts.filterMap (·.failureLog)
  usage : r.usage = totalUsage calls

/-- What the records tell, however the last one stands. -/
theorem EndsWith.tells {stands : Attempt → Prop} {as : List Attempt} (h : EndsWith stands as) :
    (∀ a ∈ as.dropLast, a.Lost) ∧ ∃ a, as.getLast? = some a ∧ stands a ∧
      ((∃ b ∈ as, b.compiled = true) ↔ a.compiled = true) := by
  obtain ⟨past, last, rfl, hs, hl⟩ := h
  refine ⟨by simpa using hl, last, by simp, hs, ?_, fun hc => ⟨last, by simp, hc⟩⟩
  rintro ⟨b, hb, hc⟩
  rcases List.mem_append.mp hb with hb | hb
  · rw [(hl b hb).compiled] at hc
    cases hc
  · rwa [← List.mem_singleton.mp hb]

/-- All attempts before the last were lost. -/
theorem Run.Fits.past_lost {j : Job} {calls : List Call} {r : Run} (h : r.Fits j calls) :
    ∀ a ∈ r.attempts.dropLast, a.Lost := by
  have of_all (hl : ∀ a ∈ r.attempts, a.Lost) : ∀ a ∈ r.attempts.dropLast, a.Lost :=
    fun a ha => hl a (List.dropLast_subset _ ha)
  cases hs : r.state with
  | generating k => exact of_all (h.generating hs).2.2.2
  | compiling k artifact => exact (h.compiling hs).2.2.tells.1
  | retrying k => exact of_all (h.retrying hs).2.2.2
  | success artifact => exact (h.success hs).2.tells.1
  | failed =>
    rcases (h.failed hs).2 with hl | ⟨-, hp⟩
    · exact of_all hl
    · exact hp.tells.1

theorem Run.Fits.bounded {j : Job} {calls : List Call} {r : Run} (h : r.Fits j calls) :
    r.attempts.length ≤ j.bound := by
  cases hs : r.state with
  | generating k =>
    obtain ⟨-, hk, hn, -⟩ := h.generating hs
    omega
  | compiling k artifact =>
    obtain ⟨hk, hn, -⟩ := h.compiling hs
    omega
  | retrying k =>
    obtain ⟨-, hk, hn, -⟩ := h.retrying hs
    omega
  | success artifact => exact (h.success hs).1
  | failed => exact (h.failed hs).1

/-- The last record is unfinished while its code waits for the build, and when the build could not
be run. -/
theorem Run.Fits.unfinished {j : Job} {calls : List Call} {r : Run} (h : r.Fits j calls)
    {a : Attempt} (ha : r.attempts.getLast? = some a) (hf : ¬a.Finished) :
    (∃ k artifact, r.state = .compiling k artifact) ∨ VerifierFailed calls := by
  have not_all : ¬∀ a ∈ r.attempts, a.Lost :=
    fun hl => hf (hl a (List.mem_of_getLast? ha)).finished
  cases hs : r.state with
  | generating k => exact absurd (h.generating hs).2.2.2 not_all
  | compiling k artifact => exact Or.inl ⟨k, artifact, rfl⟩
  | retrying k => exact absurd (h.retrying hs).2.2.2 not_all
  | success artifact =>
    obtain ⟨-, b, hb, hacc, -⟩ := (h.success hs).2.tells
    rw [ha, Option.some.injEq] at hb
    exact absurd (hb ▸ hacc.finished) hf
  | failed =>
    rcases (h.failed hs).2 with hl | ⟨hfailed, -⟩
    · exact absurd hl not_all
    · exact Or.inr hfailed

/-- A record says that its build succeeded just when the run did. -/
theorem Run.Fits.compiled_iff {j : Job} {calls : List Call} {r : Run} (h : r.Fits j calls) :
    (∃ a ∈ r.attempts, a.compiled = true) ↔ ∃ artifact, r.state = .success artifact := by
  have none_of_lost (hl : ∀ a ∈ r.attempts, a.Lost) : ¬∃ a ∈ r.attempts, a.compiled = true := by
    rintro ⟨a, ha, hc⟩
    rw [(hl a ha).compiled] at hc
    cases hc
  have none_of_pending (hp : EndsWith Attempt.Pending r.attempts) :
      ¬∃ a ∈ r.attempts, a.compiled = true := by
    obtain ⟨-, a, -, hpend, hiff⟩ := hp.tells
    rw [hiff, hpend.compiled]
    decide
  cases hs : r.state with
  | generating k => simpa using none_of_lost (h.generating hs).2.2.2
  | compiling k artifact => simpa using none_of_pending (h.compiling hs).2.2
  | retrying k => simpa using none_of_lost (h.retrying hs).2.2.2
  | success artifact =>
    obtain ⟨-, a, -, hacc, hiff⟩ := (h.success hs).2.tells
    exact ⟨fun _ => ⟨artifact, rfl⟩, fun _ => hiff.mpr hacc.compiled⟩
  | failed =>
    rcases (h.failed hs).2 with hl | ⟨-, hp⟩
    · simpa using none_of_lost hl
    · simpa using none_of_pending hp

/-- **The records of a run are in order.** In every run that steps lead to, whatever provider and
verifier answer, the records are numbered, bounded and finished as `Run.Consistent` says. -/
theorem reached_consistent {σ : Type} {c : Collaborators σ} {j : Job} {s₀ s : σ} {calls : List Call}
    {r : Run} (h : Reached c j s₀ calls r s) : r.Consistent j calls := by
  have hf := reached_fits h
  exact
    { numbered := hf.numbered
      bounded := hf.bounded
      generating := fun k hs => by
        obtain ⟨h1, hk, hn, -⟩ := hf.generating hs
        omega
      compiling := fun k artifact hs => by
        obtain ⟨hk, hn, past, last, has, -⟩ := hf.compiling hs
        simp only [has, List.length_append, List.length_singleton] at hn ⊢
        omega
      retrying := fun k hs => by
        obtain ⟨h1, hk, hn, -⟩ := hf.retrying hs
        omega
      finished := fun a ha => (hf.past_lost a ha).finished
      unfinished := fun a ha hna => hf.unfinished ha hna
      compiled := hf.compiled_iff
      compiledLast := fun a ha => (hf.past_lost a ha).compiled
      logs := hf.logs
      usage := reached_usage h }

/-- A run of three attempts: no answer, a build that fails, and a build that cannot be run. It ends
there, and the last record is unfinished. -/
theorem consistent_after_failures :
    let j : Job := ⟨⟨.plain, {}, "A", "ATest", ""⟩, "", ⟨"ATest.java"⟩, .empty, 5⟩
    ∃ calls r s,
      Reached scripted j
        ([.error (.network "reset"), .ok ⟨"class A {}", ⟨1, 2⟩⟩, .ok ⟨"class B {}", ⟨3, 4⟩⟩],
          [.ok ⟨false, "no symbol"⟩, .error (.spawn "mvn")]) calls r s ∧
      r.state = .failed ∧ r.attempts.length = 3 ∧ r.failures = ["no symbol"] ∧
      r.usage = ⟨4, 6⟩ ∧ r.Consistent j calls := by
  intro j
  have begun : Reached scripted j
      ([.error (.network "reset"), .ok ⟨"class A {}", ⟨1, 2⟩⟩, .ok ⟨"class B {}", ⟨3, 4⟩⟩],
        [.ok ⟨false, "no symbol"⟩, .error (.spawn "mvn")]) [] .start _ := .start
  have coded := ((begun.step rfl).step rfl).step rfl
  have ended := (((coded.step rfl).step rfl).step rfl).step rfl
  exact ⟨_, _, _, ended, rfl, rfl, rfl, rfl, reached_consistent ended⟩

end Repair
end Testsmith
