/-
# A repair run with more attempts allowed

The number of attempts allowed is looked at only after an attempt that failed. So two runs of a job
that differ in this number alone go on in lock step, until the run with fewer attempts has used them
up (`course_allow`). A run that ends before that, with a test or because the verifier could not be
run, ends the same way when more attempts are allowed; and the records of a run that has used up its
attempts are the first ones of the longer run, which changes none of them (`runFrom_keeps`).

Key definitions: `Job.allow`, `Parted`, `Run.Exhausted`, `Together`, `Run.Keeps`, `Prolonged`.
Key theorems: `step_allow`, `course_allow`, `runFrom_allow`, `outcome_prolonged`.
-/
import Testsmith.Proofs.Repair.Attempts
import Testsmith.Proofs.Repair.Bound

namespace Testsmith
namespace Repair

/-- The same job with another number of attempts allowed. -/
def Job.allow (j : Job) (attempts : Nat) : Job := { j with maxAttempts := attempts }

/-- A larger number never allows fewer attempts. -/
theorem Job.bound_le_allow {j : Job} {m : Nat} (h : j.maxAttempts ≤ m) :
    j.bound ≤ (j.allow m).bound :=
  Nat.max_le.mpr ⟨Nat.le_trans h (Nat.le_max_left _ _), Nat.le_max_right _ _⟩

/-- The attempts of the job are used up in the one run, and the other one, which is the same, goes
on. -/
def Parted (j : Job) (short long : Run) : Prop :=
  ∃ (k : Nat) (next : Run), j.bound ≤ k ∧ short = { next with state := .failed } ∧
    long = { next with state := .retrying k }

/-- The run has used up the attempts of the job, and all of them were lost. -/
structure Run.Exhausted (j : Job) (r : Run) : Prop where
  state : r.state = .failed
  all : r.attempts.length = j.bound
  lost : ∀ a ∈ r.attempts, a.Lost

variable {σ : Type} {c : Collaborators σ} {j : Job} {m : Nat}

theorem Run.Exhausted.isTerminal {r : Run} (h : r.Exhausted j) : r.state.isTerminal = true := by
  rw [h.state]
  rfl

/-- A run that is parted from has used up its attempts. -/
theorem Parted.exhausted {short long : Run} {past past' : List Call} (h : Parted j short long)
    (hshort : short.Fits j past) (hlong : long.Fits (j.allow m) past') : short.Exhausted j := by
  obtain ⟨k, next, hk, rfl, rfl⟩ := h
  obtain ⟨-, -, hlength, hlost⟩ := hlong.retrying rfl
  have hbounded := hshort.bounded
  have hall : next.attempts.length = j.bound := by
    dsimp only at hlength hbounded
    omega
  exact ⟨rfl, hall, hlost⟩

/-! ### One step of both runs -/

theorem callsOf_allow (r : Run) (s : σ) : callsOf c (j.allow m) r s = callsOf c j r s := rfl

theorem step_of_generating {r : Run} {k : Nat} (hr : r.state = .generating k) (s : σ) :
    step c j r s =
      ((j.afterReply k r (c.generate (j.request.prompt r.failures) s).1).map fun r => { run := r },
        (c.generate (j.request.prompt r.failures) s).2) := by
  rw [step, hr]

section
variable (h : j.bound ≤ (j.allow m).bound)

include h

/-- After an attempt that failed the runs are the same, or only the longer one goes on. -/
theorem afterFailure_allow (k : Nat) (next : Run) :
    ({ next with state := (j.allow m).afterFailure k } : Run) =
        { next with state := j.afterFailure k } ∨
      Parted j { next with state := j.afterFailure k }
        { next with state := (j.allow m).afterFailure k } := by
  by_cases hshort : k < j.bound
  · left
    have hlong : k < (j.allow m).bound := Nat.lt_of_lt_of_le hshort h
    rw [afterFailure_of_lt hshort, afterFailure_of_lt hlong]
  · have hfailed : j.afterFailure k = .failed := if_neg hshort
    rw [hfailed]
    by_cases hlong : k < (j.allow m).bound
    · right
      rw [afterFailure_of_lt hlong]
      exact ⟨k, next, Nat.le_of_not_lt hshort, rfl, rfl⟩
    · left
      have hfailed' : (j.allow m).afterFailure k = .failed := if_neg hlong
      rw [hfailed']

/-- The answer of the provider is taken up in the same way, unless the attempts are used up. -/
theorem afterReply_allow (k : Nat) (r : Run) (answer : Except GenerationError Reply) :
    (j.allow m).afterReply k r answer = j.afterReply k r answer ∨
      ∃ short long, j.afterReply k r answer = .ok short ∧
        (j.allow m).afterReply k r answer = .ok long ∧ Parted j short long := by
  have hreject (usage : TokenUsage) (e : GenerationError) :
      (j.allow m).rejectGeneration k r usage e = j.rejectGeneration k r usage e ∨
        Parted j (j.rejectGeneration k r usage e) ((j.allow m).rejectGeneration k r usage e) :=
    afterFailure_allow h k (j.rejectGeneration k r usage e)
  cases answer with
  | error e =>
    rw [Job.afterReply, Job.afterReply]
    rcases hreject r.usage e with hsame | hparted
    · left
      rw [hsame]
    · right
      exact ⟨_, _, rfl, rfl, hparted⟩
  | ok reply =>
    rw [Job.afterReply, Job.afterReply]
    cases r.usage.add? reply.usage with
    | none =>
      left
      rfl
    | some usage =>
      dsimp only
      split
      · rcases hreject usage .empty with hsame | hparted
        · left
          rw [hsame]
        · right
          exact ⟨_, _, rfl, rfl, hparted⟩
      · left
        rfl

/-- The answer of the verifier is taken up in the same way, unless the attempts are used up. -/
theorem afterBuild_allow (k : Nat) (a : Artifact) (r : Run) (v : Verification) :
    (j.allow m).afterBuild k a r v = j.afterBuild k a r v ∨
      Parted j (j.afterBuild k a r v) ((j.allow m).afterBuild k a r v) := by
  rw [Job.afterBuild, Job.afterBuild]
  split
  · left
    rfl
  · exact afterFailure_allow h k { r with
      failures := r.failures ++ [v.log]
      attempts := mapLast (fun a => { a with failureLog := some v.log }) r.attempts }

/-- A step is the same in both runs, unless the attempts are used up in it. -/
theorem step_allow (r : Run) (s : σ) :
    step c (j.allow m) r s = step c j r s ∨
      ∃ short long s', step c j r s = (.ok { run := short }, s') ∧
        step c (j.allow m) r s = (.ok { run := long }, s') ∧ Parted j short long := by
  cases hr : r.state with
  | generating k =>
    have hrequest : (j.allow m).request = j.request := rfl
    rw [step_of_generating hr, step_of_generating hr, hrequest]
    generalize c.generate (j.request.prompt r.failures) s = asked
    rcases afterReply_allow h k r asked.1 with hsame | ⟨short, long, hshort, hlong, hparted⟩
    · left
      rw [hsame]
    · right
      rw [hshort, hlong]
      exact ⟨short, long, asked.2, rfl, rfl, hparted⟩
  | compiling k artifact =>
    rw [step, step, hr]
    dsimp only
    generalize c.verify artifact s = built
    obtain ⟨result, s'⟩ := built
    cases result with
    | error e =>
      left
      rfl
    | ok v =>
      rcases afterBuild_allow h k artifact r v with hsame | hparted
      · left
        dsimp only
        rw [hsame]
      · right
        exact ⟨_, _, s', rfl, rfl, hparted⟩
  | retrying k =>
    left
    rw [step, step, hr]
  | success artifact =>
    left
    rw [step, step, hr]
  | failed =>
    left
    rw [step, step, hr]

/-! ### So many steps of both runs -/

/-- **The runs go on in lock step until the shorter one has used up its attempts.** -/
theorem course_allow (s : σ) (n : Nat) :
    course c (j.allow m) s n = course c j s n ∨
      ∃ r, (course c j s n).result = .ok r ∧ r.Exhausted j := by
  induction n with
  | zero =>
    left
    rfl
  | succ n ih =>
    rcases ih with hsame | ⟨r, hr, hexhausted⟩
    · rcases course_cases (c := c) (j := j) s n with ⟨r, hr, hreached⟩ | ⟨hr, -⟩
      · have hreached' : Reached c (j.allow m) s (course c j s n).calls r (course c j s n).world := by
          rw [← hsame] at hr ⊢
          exact course_reached hr
        rcases step_allow (c := c) h r (course c j s n).world with
          hstep | ⟨short, long, s', hshort, hlong, hparted⟩
        · left
          rw [course, course, hsame, Course.next, Course.next, hr]
          dsimp only
          rw [hstep, callsOf_allow]
        · right
          have hexhausted := hparted.exhausted (reached_fits (hreached.step hshort))
            (reached_fits (hreached'.step hlong))
          refine ⟨short, ?_, hexhausted⟩
          rw [course, Course.next, hr]
          dsimp only
          rw [hshort]
          rfl
      · left
        rw [course, course, hsame, Course.next, Course.next, hr]
    · right
      have hended : (course c j s n).state.isTerminal = true := by
        rw [Course.state, hr]
        exact hexhausted.isTerminal
      rw [course_succ_of_ended hended]
      exact ⟨r, hr, hexhausted⟩

end

/-! ### The ends of both runs -/

/-- Both runs from a state end in the same way after the same calls, or the shorter one has used up
its attempts and the longer one goes on from there. -/
inductive Together (c : Collaborators σ) (j : Job) (m fuel fuel' : Nat) (r : Run) (s : σ) : Prop
  | same : runFrom c (j.allow m) fuel' r s = runFrom c j fuel r s →
      callsFrom c (j.allow m) fuel' r s = callsFrom c j fuel r s → Together c j m fuel fuel' r s
  | parted {short long : Run} {s' : σ} {left : Nat} : short.Exhausted j → Parted j short long →
      runFrom c j fuel r s = (.ok short.finish, s') →
      runFrom c (j.allow m) fuel' r s = runFrom c (j.allow m) left long s' →
      callsFrom c (j.allow m) fuel' r s =
        callsFrom c j fuel r s ++ callsFrom c (j.allow m) left long s' →
      Together c j m fuel fuel' r s

namespace Together

variable {fuel fuel' : Nat} {r : Run} {s : σ}

/-- A run that has ended is the same for every number of attempts. -/
theorem of_terminal (hr : r.state.isTerminal = true) : Together c j m fuel fuel' r s := by
  obtain ⟨hrun, hcalls⟩ := runFrom_terminal (c := c) (j := j) hr fuel s
  obtain ⟨hrun', hcalls'⟩ := runFrom_terminal (c := c) (j := j.allow m) hr fuel' s
  exact .same (hrun'.trans hrun.symm) (hcalls'.trans hcalls.symm)

/-- So is one that ends without an outcome in a step that is the same. -/
theorem of_halt (hr : r.state.isTerminal = false) (hstep : step c (j.allow m) r s = step c j r s)
    (hhalt : ∀ next s', step c j r s ≠ (.ok { run := next }, s')) :
    Together c j m (fuel + 1) (fuel' + 1) r s := by
  have hsame : runFrom c (j.allow m) (fuel' + 1) r s = runFrom c j (fuel + 1) r s ∧
      callsFrom c (j.allow m) (fuel' + 1) r s = callsFrom c j (fuel + 1) r s := by
    rw [runFrom, runFrom, callsFrom, callsFrom, hr, hstep]
    cases hnext : step c j r s with
    | mk result s' =>
      rcases result with e | ⟨next, _ | e⟩
      · cases e
        exact ⟨rfl, rfl⟩
      · exact absurd hnext (hhalt next s')
      · exact ⟨rfl, rfl⟩
  exact .same hsame.1 hsame.2

/-- Both runs take the same step and are together after it. -/
theorem of_step {next : Run} {s' : σ} (hr : r.state.isTerminal = false)
    (hstep : step c j r s = (.ok { run := next }, s'))
    (hstep' : step c (j.allow m) r s = (.ok { run := next }, s'))
    (h : Together c j m fuel fuel' next s') : Together c j m (fuel + 1) (fuel' + 1) r s := by
  obtain ⟨hrun, hcalls⟩ := runFrom_of_step hr hstep fuel
  obtain ⟨hrun', hcalls'⟩ := runFrom_of_step hr hstep' fuel'
  rw [callsOf_allow] at hcalls'
  cases h with
  | same hsame hmade =>
    exact .same (by rw [hrun', hrun, hsame]) (by rw [hcalls', hcalls, hmade])
  | parted hexhausted hparted hend hgoes hmade =>
    refine .parted hexhausted hparted (hrun.trans hend) (hrun'.trans hgoes) ?_
    rw [hcalls', hcalls, hmade, List.append_assoc]

/-- The attempts are used up in the step. -/
theorem of_parted {short long : Run} {s' : σ} (hr : r.state.isTerminal = false)
    (hshort : step c j r s = (.ok { run := short }, s'))
    (hlong : step c (j.allow m) r s = (.ok { run := long }, s')) (hexhausted : short.Exhausted j)
    (hparted : Parted j short long) : Together c j m (fuel + 1) (fuel' + 1) r s := by
  obtain ⟨hrun, hcalls⟩ := runFrom_of_step hr hshort fuel
  obtain ⟨hrun', hcalls'⟩ := runFrom_of_step hr hlong fuel'
  obtain ⟨hend, hnone⟩ := runFrom_terminal (c := c) (j := j) hexhausted.isTerminal fuel s'
  refine .parted hexhausted hparted (hrun.trans hend) hrun' ?_
  rw [hcalls, hcalls', hnone, List.append_nil, callsOf_allow]

end Together

/-- **The runs end in the same way, or the shorter one has used up its attempts and the longer one
goes on from there.** -/
theorem runFrom_allow (h : j.bound ≤ (j.allow m).bound) : ∀ {fuel fuel' : Nat} {past : List Call}
    {r : Run} {s : σ}, r.Fits j past → r.Fits (j.allow m) past → j.rest r.state ≤ fuel →
      (j.allow m).rest r.state ≤ fuel' → Together c j m fuel fuel' r s := by
  intro fuel
  induction fuel with
  | zero =>
    intro fuel' past r s hf hf' hfuel hfuel'
    cases hr : r.state.isTerminal with
    | true => exact .of_terminal hr
    | false =>
      have hpos := rest_pos hf hr
      omega
  | succ fuel ih =>
    intro fuel' past r s hf hf' hfuel hfuel'
    cases hr : r.state.isTerminal with
    | true => exact .of_terminal hr
    | false =>
      have hpos := rest_pos hf' hr
      obtain ⟨fuel', rfl⟩ : ∃ n, fuel' = n + 1 := ⟨fuel' - 1, by omega⟩
      rcases step_allow (c := c) h r s with hstep | ⟨short, long, s', hshort, hlong, hparted⟩
      · by_cases hhalt : ∃ next s', step c j r s = (.ok { run := next }, s')
        · obtain ⟨next, s', hnext⟩ := hhalt
          have hnext' := hstep.trans hnext
          have ht := step_transition hnext
          have ht' := step_transition hnext'
          have hrest : j.rest next.state < j.rest r.state := rest_transition hf hr ht
          have hrest' : (j.allow m).rest next.state < (j.allow m).rest r.state :=
            rest_transition hf' hr ht'
          exact .of_step hr hnext hnext'
            (ih (fits_transition hf ht) (fits_transition hf' ht') (by omega) (by omega))
        · exact .of_halt hr hstep fun next s' hnext => hhalt ⟨next, s', hnext⟩
      · have hexhausted := hparted.exhausted (fits_transition hf (step_transition hshort))
          (fits_transition hf' (step_transition hlong))
        exact .of_parted hr hshort hlong hexhausted hparted

/-! ### The records of the longer run -/

/-- The run has the given records, and they are not the ones that it still works on. -/
structure Run.Keeps (past : List Attempt) (r : Run) : Prop where
  first : past <+: r.attempts
  compiling : ∀ k a, r.state = .compiling k a → past.length < r.attempts.length

/-- The longer run goes on with the records that the shorter one ends with. -/
theorem Parted.keeps {short long : Run} (h : Parted j short long) : long.Keeps short.attempts := by
  obtain ⟨k, next, -, rfl, rfl⟩ := h
  exact ⟨List.prefix_refl _, fun k' a hs => by cases hs⟩

theorem prefix_mapLast {past as : List Attempt} (f : Attempt → Attempt) (h : past <+: as)
    (hlength : past.length < as.length) : past <+: mapLast f as := by
  obtain ⟨rest, rfl⟩ := h
  rcases List.eq_nil_or_concat rest with rfl | ⟨rest, last, rfl⟩
  · simp at hlength
  · rw [List.concat_eq_append, ← List.append_assoc, mapLast_append, List.append_assoc]
    exact List.prefix_append _ _

theorem keeps_transition {past : List Attempt} {calls : List Call} {r : Run} {s s' : σ} {next : Step}
    (h : r.Keeps past) (ht : Transition c j r s calls next s') : next.run.Keeps past := by
  have hreject (k : Nat) (usage : TokenUsage) (e : GenerationError) :
      (j.rejectGeneration k r usage e).Keeps past := by
    refine ⟨h.first.trans (List.prefix_append _ _), fun k' a hs => ?_⟩
    exact absurd hs (afterFailure_ne_compiling j k k' a)
  cases ht with
  | unanswered _ _ => exact hreject _ _ _
  | blank _ _ _ _ => exact hreject _ _ _
  | answered _ _ _ _ =>
    refine ⟨h.first.trans (List.prefix_append _ _), fun k' a _ => ?_⟩
    have hlength := h.first.length_le
    simp only [Job.acceptGeneration, List.length_append, List.length_singleton]
    omega
  | unbuilt _ _ => exact ⟨h.first, fun k' a hs => by cases hs⟩
  | @built k artifact v _ hs _ =>
    have hlength := h.compiling k artifact hs
    refine ⟨?_, fun k' a hs' => ?_⟩
    · rw [Job.afterBuild]
      split
      · exact prefix_mapLast _ h.first hlength
      · exact prefix_mapLast _ h.first hlength
    · rw [afterBuild_state] at hs'
      split at hs'
      · cases hs'
      · exact absurd hs' (afterFailure_ne_compiling j k k' a)
  | retried _ => exact ⟨h.first, fun k' a hs => by cases hs⟩
  | ended _ => exact h

/-- Records stay as they are to the end of a run. -/
theorem runFrom_keeps {past : List Attempt} : ∀ {fuel : Nat} {r : Run} {s s' : σ} {o : Outcome},
    r.Keeps past → runFrom c j fuel r s = (.ok o, s') → past <+: o.attempts
  | 0, r, s, s', o, h, hrun => by
    simp only [runFrom, Prod.mk.injEq, Except.ok.injEq] at hrun
    rw [← hrun.1]
    exact h.first
  | fuel + 1, r, s, s', o, h, hrun => by
    cases hr : r.state.isTerminal with
    | true =>
      obtain ⟨rfl, -, -⟩ := runFrom_ended hr hrun
      exact h.first
    | false =>
      obtain ⟨next, s₁, hstep, hrest, -⟩ := runFrom_succ hr hrun
      exact runFrom_keeps (keeps_transition h (step_transition hstep)) hrest

/-! ### Runs with more attempts allowed -/

variable (c j m)

/-- What is left of a run when more attempts are allowed. -/
structure Prolonged (s : σ) : Prop where
  /-- A test that was approved is the end of the longer run as well, with the same records and the
  same tokens, after the same calls. -/
  approved : ∀ o a s', outcome c j s = (.ok o, s') → o.result = .ok a →
    outcome c (j.allow m) s = (.ok o, s') ∧
      callsFrom c (j.allow m) (j.allow m).stepBound .start s = callsFrom c j j.stepBound .start s
  /-- So is a verifier that could not be run. -/
  stopped : ∀ e s', outcome c j s = (.error (.verify e), s') →
    outcome c (j.allow m) s = (.error (.verify e), s') ∧
      callsFrom c (j.allow m) (j.allow m).stepBound .start s = callsFrom c j j.stepBound .start s
  /-- When all attempts are used up, their records are the first ones of the longer run, and their
  calls come first. -/
  exhausted : ∀ o e s', outcome c j s = (.ok o, s') → o.result = .error e →
    callsFrom c j j.stepBound .start s <+:
        callsFrom c (j.allow m) (j.allow m).stepBound .start s ∧
      ∀ o' s'', outcome c (j.allow m) s = (.ok o', s'') →
        o.attempts = o'.attempts.take j.bound
  /-- After so many steps both runs stand at the same, or the shorter one has used up its
  attempts. -/
  lockstep : ∀ n, course c (j.allow m) s n = course c j s n ∨
    ∃ r, (course c j s n).result = .ok r ∧ r.Exhausted j

variable {c j m}

theorem start_together (h : j.bound ≤ (j.allow m).bound) (s : σ) :
    Together c j m j.stepBound (j.allow m).stepBound .start s :=
  runFrom_allow h (start_fits j) (start_fits (j.allow m)) (Nat.le_of_eq rest_start)
    (Nat.le_of_eq rest_start)

/-- **To allow more attempts changes nothing that has happened.** -/
theorem outcome_prolonged (h : j.bound ≤ (j.allow m).bound) (s : σ) : Prolonged c j m s where
  approved := by
    intro o a s' ho ha
    cases start_together (c := c) h s with
    | same hsame hcalls => exact ⟨hsame.trans ho, hcalls⟩
    | parted hexhausted _ hend _ _ =>
      rw [← outcome, ho, Prod.mk.injEq, Except.ok.injEq] at hend
      rw [hend.1] at ha
      have hsuccess := finish_result_ok ha
      rw [hexhausted.state] at hsuccess
      cases hsuccess
  stopped := by
    intro e s' he
    cases start_together (c := c) h s with
    | same hsame hcalls => exact ⟨hsame.trans he, hcalls⟩
    | parted _ _ hend _ _ =>
      rw [← outcome, he] at hend
      cases hend
  exhausted := by
    intro o e s' ho he
    cases start_together (c := c) h s with
    | same hsame hcalls =>
      refine ⟨hcalls ▸ List.prefix_refl _, fun o' s'' ho' => ?_⟩
      obtain ⟨last, hlast, rfl⟩ := reached_callsFrom .start ho
      rw [outcome, hsame, ← outcome, ho, Prod.mk.injEq, Except.ok.injEq] at ho'
      rw [← ho'.1]
      exact (List.take_of_length_le (reached_fits hlast).bounded).symm
    | @parted short long _ _ hexhausted hparted hend hgoes hcalls =>
      refine ⟨⟨_, hcalls.symm⟩, fun o' s'' ho' => ?_⟩
      rw [outcome, hgoes] at ho'
      rw [← outcome, ho, Prod.mk.injEq, Except.ok.injEq] at hend
      have hattempts : o.attempts = short.attempts := by
        rw [hend.1]
        rfl
      have hfirst : short.attempts <+: o'.attempts := runFrom_keeps hparted.keeps ho'
      rw [hattempts, ← hexhausted.all]
      exact List.prefix_iff_eq_take.mp hfirst
  lockstep := course_allow h s

/-- Two builds that fail use up the attempts of one run; a longer one has a third, which succeeds. -/
theorem prolonged_third_approved :
    let j : Job := ⟨⟨.plain, {}, "A", "ATest", ""⟩, "", ⟨"ATest.java"⟩, .empty, 2⟩
    let s : List (Except GenerationError Reply) × List (Except VerifyError Verification) :=
      ([.ok ⟨"class A {}", ⟨1, 2⟩⟩, .ok ⟨"class B {}", ⟨3, 4⟩⟩, .ok ⟨"class C {}", ⟨5, 6⟩⟩],
        [.ok ⟨false, "no symbol"⟩, .ok ⟨false, "no type"⟩, .ok ⟨true, ""⟩])
    j.bound ≤ (j.allow 4).bound ∧ Prolonged scripted j 4 s ∧
      ∃ o o', (outcome scripted j s).1 = .ok o ∧ (outcome scripted (j.allow 4) s).1 = .ok o' ∧
        o.attempts.length = 2 ∧ o'.attempts.length = 3 ∧ o.attempts = o'.attempts.take 2 := by
  intro j s
  have hbound : j.bound ≤ (j.allow 4).bound := Job.bound_le_allow (by decide : 2 ≤ 4)
  have hprolonged := outcome_prolonged (c := scripted) hbound s
  refine ⟨hbound, hprolonged, _, _, rfl, rfl, rfl, rfl, ?_⟩
  exact (hprolonged.exhausted _ _ _ rfl rfl).2 _ _ rfl

end Repair
end Testsmith
