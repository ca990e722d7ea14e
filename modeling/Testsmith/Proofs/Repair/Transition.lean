/-
# What a step of a repair run can do

`Repair.step` seen as a relation with one case for each thing that can happen: the provider gives no
answer, an answer without code, or code; the verifier cannot be run, or gives a result; an attempt
follows another; a run that has ended stays as it is. Each case names the call that is made and the
run that it leads to, so that what holds of every run is shown case by case (`step_transition`).

A run is reached by steps from the start, also by steps after an error and after the end
(`Reached`), and `Reached` keeps the calls made on the way.

Key definitions: `Call`, `totalUsage`, `callsOf`, `Transition`, `Reached`, `scripted`.
Key theorems: `step_transition`.
-/
import Testsmith.Repair

namespace Testsmith
namespace Repair

/-- A call of the provider or the verifier, with the answer. -/
inductive Call
  | generate (prompt : String) (answer : Except GenerationError Reply)
  | verify (artifact : Artifact) (answer : Except VerifyError Verification)

/-- The tokens that a call takes. An answer that is an error takes none. -/
def Call.usage : Call → TokenUsage
  | .generate _ (.ok reply) => reply.usage
  | _ => .zero

/-- The tokens that calls take together. -/
def totalUsage : List Call → TokenUsage
  | [] => .zero
  | call :: calls =>
    ⟨call.usage.input + (totalUsage calls).input, call.usage.output + (totalUsage calls).output⟩

theorem totalUsage_concat (calls : List Call) (call : Call) : totalUsage (calls ++ [call]) =
    ⟨(totalUsage calls).input + call.usage.input,
      (totalUsage calls).output + call.usage.output⟩ := by
  induction calls with
  | nil => simp [totalUsage, TokenUsage.zero]
  | cons first calls ih => simp only [List.cons_append, totalUsage, ih, Nat.add_assoc]

/-- Collaborators that answer from lists. When these are used up they give errors. -/
def scripted :
    Collaborators
      (List (Except GenerationError Reply) × List (Except VerifyError Verification)) where
  generate _ s :=
    match s.1 with
    | [] => (.error (.config "no reply"), s)
    | answer :: more => (answer, more, s.2)
  verify _ s :=
    match s.2 with
    | [] => (.error (.spawn "no result"), s)
    | answer :: more => (answer, s.1, more)

variable {σ : Type} (c : Collaborators σ) (j : Job)

/-- The calls that a step makes: at most one. -/
def callsOf (r : Run) (s : σ) : List Call :=
  match r.state with
  | .generating _ =>
    [.generate (j.request.prompt r.failures) (c.generate (j.request.prompt r.failures) s).1]
  | .compiling _ artifact => [.verify artifact (c.verify artifact s).1]
  | _ => []

/-- What a step does, by what happens in it: from the run `r` it makes `calls`, leads to `next` and
leaves the collaborators in `s'`. -/
inductive Transition (r : Run) (s : σ) : (calls : List Call) → (next : Step) → (s' : σ) → Prop
  /-- The provider gives no answer. -/
  | unanswered {k : Nat} {e : GenerationError} {s' : σ} (state : r.state = .generating k)
      (answer : c.generate (j.request.prompt r.failures) s = (.error e, s')) :
      Transition r s [.generate (j.request.prompt r.failures) (.error e)]
        { run := j.rejectGeneration k r r.usage e } s'
  /-- There is no code in the answer. -/
  | blank {k : Nat} {reply : Reply} {usage : TokenUsage} {s' : σ} (state : r.state = .generating k)
      (answer : c.generate (j.request.prompt r.failures) s = (.ok reply, s'))
      (sum : r.usage.add? reply.usage = some usage)
      (text : (stripFences reply.text).isEmpty = true) :
      Transition r s [.generate (j.request.prompt r.failures) (.ok reply)]
        { run := j.rejectGeneration k r usage .empty } s'
  | answered {k : Nat} {reply : Reply} {usage : TokenUsage} {s' : σ}
      (state : r.state = .generating k)
      (answer : c.generate (j.request.prompt r.failures) s = (.ok reply, s'))
      (sum : r.usage.add? reply.usage = some usage)
      (text : (stripFences reply.text).isEmpty = false) :
      Transition r s [.generate (j.request.prompt r.failures) (.ok reply)]
        { run := j.acceptGeneration k r usage reply.text } s'
  /-- The verifier cannot be run. -/
  | unbuilt {k : Nat} {artifact : Artifact} {e : VerifyError} {s' : σ}
      (state : r.state = .compiling k artifact) (answer : c.verify artifact s = (.error e, s')) :
      Transition r s [.verify artifact (.error e)]
        { run := { r with state := .failed }, error := some e } s'
  | built {k : Nat} {artifact : Artifact} {v : Verification} {s' : σ}
      (state : r.state = .compiling k artifact) (answer : c.verify artifact s = (.ok v, s')) :
      Transition r s [.verify artifact (.ok v)] { run := j.afterBuild k artifact r v } s'
  | retried {k : Nat} (state : r.state = .retrying k) :
      Transition r s [] { run := { r with state := .generating (k + 1) } } s
  | ended (state : r.state.isTerminal = true) : Transition r s [] { run := r } s

variable {c j}

/-- A step is one of the things that can happen. -/
theorem step_transition {r : Run} {s s' : σ} {next : Step} (h : step c j r s = (.ok next, s')) :
    Transition c j r s (callsOf c j r s) next s' := by
  unfold step at h
  cases hr : r.state with
  | generating k =>
    simp only [hr, Prod.mk.injEq] at h
    obtain ⟨hn, hs⟩ := h
    have hg : c.generate (j.request.prompt r.failures) s =
        ((c.generate (j.request.prompt r.failures) s).1, s') := by rw [← hs]
    simp only [callsOf, hr]
    cases ha : (c.generate (j.request.prompt r.failures) s).1 with
    | error e =>
      simp only [ha, Job.afterReply, Except.map, Except.ok.injEq] at hn
      subst hn
      exact .unanswered hr (ha ▸ hg)
    | ok reply =>
      simp only [ha, Job.afterReply] at hn
      cases hu : r.usage.add? reply.usage with
      | none => simp [hu, Except.map] at hn
      | some usage =>
        simp only [hu] at hn
        cases ht : (stripFences reply.text).isEmpty with
        | true =>
          simp only [ht, if_true, Except.map, Except.ok.injEq] at hn
          subst hn
          exact .blank hr (ha ▸ hg) hu ht
        | false =>
          simp only [ht, Bool.false_eq_true, if_false, Except.map, Except.ok.injEq] at hn
          subst hn
          exact .answered hr (ha ▸ hg) hu ht
  | compiling k artifact =>
    simp only [hr] at h
    simp only [callsOf, hr]
    cases hv : c.verify artifact s with
    | mk answer t =>
      cases answer with
      | error e =>
        simp only [hv, Prod.mk.injEq, Except.ok.injEq] at h
        obtain ⟨rfl, rfl⟩ := h
        exact .unbuilt hr hv
      | ok v =>
        simp only [hv, Prod.mk.injEq, Except.ok.injEq] at h
        obtain ⟨rfl, rfl⟩ := h
        exact .built hr hv
  | retrying k =>
    simp only [hr, Prod.mk.injEq, Except.ok.injEq] at h
    obtain ⟨rfl, rfl⟩ := h
    simpa only [callsOf, hr] using Transition.retried hr
  | success artifact =>
    simp only [hr, Prod.mk.injEq, Except.ok.injEq] at h
    obtain ⟨rfl, rfl⟩ := h
    simpa only [callsOf, hr] using Transition.ended (by rw [hr]; rfl)
  | failed =>
    simp only [hr, Prod.mk.injEq, Except.ok.injEq] at h
    obtain ⟨rfl, rfl⟩ := h
    simpa only [callsOf, hr] using Transition.ended (by rw [hr]; rfl)

variable (c j) in
/-- The runs that steps lead to from the start, with the calls made on the way. A step may also
follow one that gave an error, or the end of the run. -/
inductive Reached (s₀ : σ) : (calls : List Call) → Run → σ → Prop
  | start : Reached s₀ [] .start s₀
  | step {calls : List Call} {r : Run} {s s' : σ} {next : Step} (before : Reached s₀ calls r s)
      (taken : step c j r s = (.ok next, s')) :
      Reached s₀ (calls ++ callsOf c j r s) next.run s'

end Repair
end Testsmith
