/-
# A repair run does not see fences

Two runs of one job, the second one with a provider that puts fences around its texts, go on in lock
step (`course_fenced`): they are in the same states with the same tests, have the same logs and the
same prompts, ask the verifier about the same tests and count the same tokens. All that differs are
the texts in the records, which are kept as they came.

The collaborators of the two runs need not have states of one type. They are related by what they
answer from related states (`FencedBy`); lists of answers are (`scripted_fencedBy`).

Key definitions: `AnswerFenced`, `FencedBy`, `Run.Fenced`, `FencesInvisible`.
Key theorems: `step_fenced`, `course_fenced`, `runFrom_fenced`, `run_fencesInvisible`.
-/
import Mathlib.Data.List.Forall2
import Testsmith.Proofs.Repair.Bound
import Testsmith.Proofs.Reply.Fence

namespace Testsmith
namespace Repair

/-! ### What the two runs have in common -/

/-- Two results are the same error, or values that are related. -/
inductive BothOr {ε α β : Type} (rel : α → β → Prop) : Except ε α → Except ε β → Prop
  | error (e : ε) : BothOr rel (.error e) (.error e)
  | ok {a : α} {b : β} : rel a b → BothOr rel (.ok a) (.ok b)

/-- The second text is the first one, which begins with no fence, with fences around it. -/
def TextFenced (s t : String) : Prop := Unfenced s.toList ∧ ∃ f : Fencing, t = f.around s

/-- The second answer is the first one, with fences around the text. -/
def AnswerFenced : Except GenerationError Reply → Except GenerationError Reply → Prop :=
  BothOr fun reply fenced => TextFenced reply.text fenced.text ∧ fenced.usage = reply.usage

/-- The records differ in their texts alone: those of the second one have fences around them. -/
structure Attempt.Fenced (a b : Attempt) : Prop where
  same : b = { a with rawText := b.rawText }
  text : a.rawText = none ∧ b.rawText = none ∨
    ∃ s t, a.rawText = some s ∧ b.rawText = some t ∧ TextFenced s t

/-- The runs differ in the texts of their records alone. -/
structure Run.Fenced (r q : Run) : Prop where
  state : q.state = r.state
  failures : q.failures = r.failures
  attempts : List.Forall₂ Attempt.Fenced r.attempts q.attempts
  usage : q.usage = r.usage

/-- The outcomes differ in the texts of their records alone. -/
structure Outcome.Fenced (o p : Outcome) : Prop where
  result : p.result = o.result
  attempts : List.Forall₂ Attempt.Fenced o.attempts p.attempts
  usage : p.usage = o.usage

/-- The same call, but for fences in the answer. -/
inductive Call.Fenced : Call → Call → Prop
  | generate (prompt : String) {answer fenced : Except GenerationError Reply} :
      AnswerFenced answer fenced → Fenced (.generate prompt answer) (.generate prompt fenced)
  | verify (artifact : Artifact) (answer : Except VerifyError Verification) :
      Fenced (.verify artifact answer) (.verify artifact answer)

section
variable {σ σ' : Type}

/-- From related states the second collaborators answer as the first ones, but for fences around the
texts, and are in related states afterwards. -/
structure FencedBy (rel : σ → σ' → Prop) (c : Collaborators σ) (d : Collaborators σ') : Prop where
  generate : ∀ prompt {s s'}, rel s s' →
    AnswerFenced (c.generate prompt s).1 (d.generate prompt s').1 ∧
      rel (c.generate prompt s).2 (d.generate prompt s').2
  verify : ∀ artifact {s s'}, rel s s' → (d.verify artifact s').1 = (c.verify artifact s).1 ∧
    rel (c.verify artifact s).2 (d.verify artifact s').2

/-- So many steps lead to the same, but for fences. -/
structure Course.Fenced (rel : σ → σ' → Prop) (w : Course σ) (x : Course σ') : Prop where
  result : BothOr Run.Fenced w.result x.result
  world : rel w.world x.world
  calls : List.Forall₂ Call.Fenced w.calls x.calls

/-- Nothing that a run does depends on fences around the texts of its replies. -/
structure FencesInvisible (rel : σ → σ' → Prop) (c : Collaborators σ) (d : Collaborators σ')
    (j : Job) (s : σ) (s' : σ') : Prop where
  /-- However many steps are taken, the runs differ in the texts of their records alone. -/
  course : ∀ n, (course c j s n).Fenced rel (course d j s' n)
  outcome : BothOr Outcome.Fenced (outcome c j s).1 (outcome d j s').1

end

/-! ### Taking up an answer -/

theorem mapLast_fenced {f : Attempt → Attempt} (hf : ∀ {a b}, a.Fenced b → (f a).Fenced (f b))
    {as bs : List Attempt} (h : List.Forall₂ Attempt.Fenced as bs) :
    List.Forall₂ Attempt.Fenced (mapLast f as) (mapLast f bs) := by
  induction h with
  | nil => exact .nil
  | cons hfirst hmore ih =>
    cases hmore with
    | nil => exact .cons (hf hfirst) .nil
    | cons _ _ => exact .cons hfirst ih

theorem getLast?_fenced {as bs : List Attempt} (h : List.Forall₂ Attempt.Fenced as bs) :
    bs.getLast?.bind (·.failureLog) = as.getLast?.bind (·.failureLog) := by
  induction h with
  | nil => rfl
  | @cons a b _ _ hfirst hmore ih =>
    cases hmore with
    | nil =>
      have hlog : b.failureLog = a.failureLog := by rw [hfirst.same]
      exact hlog
    | cons _ _ => rwa [List.getLast?_cons_cons, List.getLast?_cons_cons]

section
variable {j : Job} {r q : Run} (h : r.Fenced q)

include h

theorem rejectGeneration_fenced (k : Nat) (usage : TokenUsage) (e : GenerationError) :
    (j.rejectGeneration k r usage e).Fenced (j.rejectGeneration k q usage e) := by
  refine ⟨rfl, h.failures, ?_, rfl⟩
  refine List.rel_append h.attempts (.cons ⟨?_, Or.inl ⟨rfl, rfl⟩⟩ .nil)
  rw [h.failures]

/-- **The same test is built from a reply with fences around it.** -/
theorem acceptGeneration_fenced (k : Nat) (usage : TokenUsage) {s t : String}
    (ht : TextFenced s t) :
    (j.acceptGeneration k r usage s).Fenced (j.acceptGeneration k q usage t) := by
  obtain ⟨hs, f, rfl⟩ := ht
  have hresolved : resolveImports (f.around s) j.package j.request.className j.index =
      resolveImports s j.package j.request.className j.index := by
    rw [resolveImports, stripFences_around f hs, resolveImports]
  refine ⟨?_, h.failures, ?_, rfl⟩
  · rw [Job.acceptGeneration, Job.acceptGeneration, hresolved]
  · rw [Job.acceptGeneration, Job.acceptGeneration, hresolved, h.failures]
    exact List.rel_append h.attempts (.cons ⟨rfl, Or.inr ⟨s, _, rfl, rfl, hs, f, rfl⟩⟩ .nil)

theorem afterReply_fenced (k : Nat) {answer fenced : Except GenerationError Reply}
    (ha : AnswerFenced answer fenced) :
    BothOr Run.Fenced (j.afterReply k r answer) (j.afterReply k q fenced) := by
  cases ha with
  | error e =>
    rw [Job.afterReply, Job.afterReply, h.usage]
    exact .ok (rejectGeneration_fenced h k r.usage e)
  | @ok reply fenced ha =>
    obtain ⟨ht, husage⟩ := ha
    have hcode : stripFences fenced.text = stripFences reply.text := by
      obtain ⟨hs, f, hf⟩ := ht
      rw [hf, stripFences_around f hs]
    rw [Job.afterReply, Job.afterReply, h.usage, husage, hcode]
    cases r.usage.add? reply.usage with
    | none => exact .error _
    | some usage =>
      dsimp only
      split
      · exact .ok (rejectGeneration_fenced h k usage .empty)
      · exact .ok (acceptGeneration_fenced h k usage ht)

theorem afterBuild_fenced (k : Nat) (a : Artifact) (v : Verification) :
    (j.afterBuild k a r v).Fenced (j.afterBuild k a q v) := by
  have hset {f : Attempt → Attempt} (hsame : ∀ a b : Attempt, a.Fenced b → (f a).Fenced (f b)) :=
    mapLast_fenced (fun {a b} => hsame a b) h.attempts
  rw [Job.afterBuild, Job.afterBuild]
  split
  · refine ⟨rfl, h.failures, hset fun a b hab => ⟨?_, hab.text⟩, h.usage⟩
    rw [hab.same]
  · refine ⟨rfl, ?_, hset fun a b hab => ⟨?_, hab.text⟩, h.usage⟩
    · rw [h.failures]
    · rw [hab.same]

end

/-! ### One step of both runs -/

variable {σ σ' : Type} {rel : σ → σ' → Prop} {c : Collaborators σ} {d : Collaborators σ'} {j : Job}

/-- The steps give the same error, if any, and lead to runs that differ in their texts alone. -/
structure Step.Fenced (x y : Step) : Prop where
  run : x.run.Fenced y.run
  error : y.error = x.error

/-- **A step does the same in both runs.** It makes the same calls, and leads to runs that differ in
the texts of their records alone. -/
theorem step_fenced (hc : FencedBy rel c d) {r q : Run} {s : σ} {s' : σ'} (h : r.Fenced q)
    (hs : rel s s') :
    BothOr Step.Fenced (step c j r s).1 (step d j q s').1 ∧
      rel (step c j r s).2 (step d j q s').2 ∧
      List.Forall₂ Call.Fenced (callsOf c j r s) (callsOf d j q s') := by
  have hstate := h.state
  cases hr : r.state with
  | generating k =>
    rw [hr] at hstate
    obtain ⟨hanswer, hnext⟩ := hc.generate (j.request.prompt r.failures) hs
    simp only [step, callsOf, hr, hstate, h.failures]
    refine ⟨?_, hnext, .cons (.generate _ hanswer) .nil⟩
    have htaken := afterReply_fenced (j := j) h k hanswer
    generalize j.afterReply k r _ = x at htaken ⊢
    generalize j.afterReply k q _ = y at htaken ⊢
    cases htaken with
    | error e => exact .error e
    | ok hrun => exact .ok ⟨hrun, rfl⟩
  | compiling k artifact =>
    rw [hr] at hstate
    obtain ⟨hanswer, hnext⟩ := hc.verify artifact hs
    simp only [step, callsOf, hr, hstate]
    generalize c.verify artifact s = built at hanswer hnext ⊢
    generalize d.verify artifact s' = built' at hanswer hnext ⊢
    obtain ⟨answer, t⟩ := built
    obtain ⟨answer', t'⟩ := built'
    dsimp only at hanswer hnext
    subst hanswer
    have hcall : List.Forall₂ Call.Fenced [.verify artifact answer'] [.verify artifact answer'] :=
      .cons (.verify artifact answer') .nil
    cases answer' with
    | error e => exact ⟨.ok ⟨⟨rfl, h.failures, h.attempts, h.usage⟩, rfl⟩, hnext, hcall⟩
    | ok v => exact ⟨.ok ⟨afterBuild_fenced h k artifact v, rfl⟩, hnext, hcall⟩
  | retrying k =>
    rw [hr] at hstate
    simp only [step, callsOf, hr, hstate]
    exact ⟨.ok ⟨⟨rfl, h.failures, h.attempts, h.usage⟩, rfl⟩, hs, .nil⟩
  | success artifact =>
    rw [hr] at hstate
    simp only [step, callsOf, hr, hstate]
    exact ⟨.ok ⟨h, rfl⟩, hs, .nil⟩
  | failed =>
    rw [hr] at hstate
    simp only [step, callsOf, hr, hstate]
    exact ⟨.ok ⟨h, rfl⟩, hs, .nil⟩

/-! ### Both runs -/

theorem start_fenced : Run.start.Fenced Run.start := ⟨rfl, rfl, .nil, rfl⟩

/-- **Both runs go on in lock step.** -/
theorem course_fenced (hc : FencedBy rel c d) {s : σ} {s' : σ'} (hs : rel s s') (n : Nat) :
    (course c j s n).Fenced rel (course d j s' n) := by
  induction n with
  | zero => exact ⟨.ok start_fenced, hs, .nil⟩
  | succ n ih =>
    rw [course, course]
    generalize course c j s n = w at ih ⊢
    generalize course d j s' n = x at ih ⊢
    obtain ⟨result, world, calls⟩ := w
    obtain ⟨result', world', calls'⟩ := x
    obtain ⟨hresult, hworld, hcalls⟩ := ih
    dsimp only at hresult hworld hcalls
    cases hresult with
    | error e =>
      cases e
      exact ⟨.error _, hworld, hcalls⟩
    | @ok r q hrun =>
      obtain ⟨hstep, hnext, hmade⟩ := step_fenced (j := j) hc hrun hworld
      refine ⟨?_, hnext, List.rel_append hcalls hmade⟩
      dsimp only [Course.next]
      generalize (step c j r world).1 = a at hstep ⊢
      generalize (step d j q world').1 = b at hstep ⊢
      cases hstep with
      | error e => exact .error e
      | ok hx => exact .ok hx.run

theorem finish_fenced {r q : Run} (h : r.Fenced q) : r.finish.Fenced q.finish := by
  have hlength : q.attempts.length = r.attempts.length := h.attempts.length_eq.symm
  refine ⟨?_, h.attempts, h.usage⟩
  rw [Run.finish, Run.finish, h.state, hlength, getLast?_fenced h.attempts]

/-- Both runs end alike. The induction is on the steps that are left. -/
theorem runFrom_fenced (hc : FencedBy rel c d) : ∀ {bound : Nat} {r q : Run} {s : σ} {s' : σ'},
    r.Fenced q → rel s s' →
      BothOr Outcome.Fenced (runFrom c j bound r s).1 (runFrom d j bound q s').1
  | 0, r, q, s, s', h, _ => .ok (finish_fenced h)
  | bound + 1, r, q, s, s', h, hs => by
    rw [runFrom, runFrom, h.state]
    split
    · exact .ok (finish_fenced h)
    · obtain ⟨hstep, hnext, -⟩ := step_fenced (j := j) hc h hs
      generalize step c j r s = x at hstep hnext ⊢
      generalize step d j q s' = y at hstep hnext ⊢
      obtain ⟨result, t⟩ := x
      obtain ⟨result', t'⟩ := y
      dsimp only at hstep hnext
      cases hstep with
      | error e =>
        cases e
        exact .error _
      | @ok a b hx =>
        obtain ⟨run, error⟩ := a
        obtain ⟨run', error'⟩ := b
        obtain ⟨hrun, herror⟩ := hx
        dsimp only at hrun herror
        subst herror
        cases error' with
        | some e => exact .error _
        | none => exact runFrom_fenced hc hrun hnext

/-- **Fences are invisible to a repair run.** -/
theorem run_fencesInvisible (hc : FencedBy rel c d) {s : σ} {s' : σ'} (hs : rel s s') (j : Job) :
    FencesInvisible rel c d j s s' :=
  ⟨course_fenced hc hs, runFrom_fenced hc start_fenced hs⟩

/-! ### Lists of answers -/

/-- The same results, and the same replies but for fences. -/
structure ScriptFenced (s s' : List (Except GenerationError Reply) ×
    List (Except VerifyError Verification)) : Prop where
  replies : List.Forall₂ AnswerFenced s.1 s'.1
  results : s'.2 = s.2

theorem scripted_fencedBy : FencedBy ScriptFenced scripted scripted where
  generate prompt s s' h := by
    obtain ⟨replies, results⟩ := s
    obtain ⟨replies', results'⟩ := s'
    obtain ⟨hreplies, rfl⟩ := h
    cases hreplies with
    | nil => exact ⟨.error _, ⟨.nil, rfl⟩⟩
    | cons hanswer hmore => exact ⟨hanswer, ⟨hmore, rfl⟩⟩
  verify artifact s s' h := by
    obtain ⟨replies, results⟩ := s
    obtain ⟨replies', results'⟩ := s'
    obtain ⟨hreplies, rfl⟩ := h
    cases results' with
    | nil => exact ⟨rfl, ⟨hreplies, rfl⟩⟩
    | cons result more => exact ⟨rfl, ⟨hreplies, rfl⟩⟩

/-- A fence that names the language, after an empty line, and one that is closed with an indent. -/
def javaFencing : Fencing where
  before := ['\n']
  info := "java".toList
  between := [' ', ' ']
  after := ['\n']
  blank_before := List.forall_mem_singleton.mpr (by decide)
  not_newline_info := by decide
  blank_between := List.forall_mem_cons.mpr ⟨by decide, List.forall_mem_singleton.mpr (by decide)⟩
  blank_after := List.forall_mem_singleton.mpr (by decide)

/-- Two attempts, both in fences: the first one is not built, and the second one passes. -/
theorem fencesInvisible_second_approved :
    let j : Job := ⟨⟨.plain, {}, "A", "ATest", ""⟩, "", ⟨"ATest.java"⟩, .empty, 3⟩
    let results := [.ok ⟨false, "no symbol"⟩, .ok ⟨true, ""⟩]
    let plain := ([.ok ⟨"class A {}", ⟨1, 2⟩⟩, .ok ⟨"class B {}", ⟨3, 4⟩⟩], results)
    let fenced := ([.ok ⟨javaFencing.around "class A {}", ⟨1, 2⟩⟩,
      .ok ⟨javaFencing.around "class B {}", ⟨3, 4⟩⟩], results)
    javaFencing.around "class A {}" = "\n\x60\x60\x60java\nclass A {}\n  \x60\x60\x60\n" ∧
      FencedBy ScriptFenced scripted scripted ∧ ScriptFenced plain fenced ∧
      FencesInvisible ScriptFenced scripted scripted j plain fenced := by
  intro j results plain fenced
  have hscript : ScriptFenced plain fenced :=
    ⟨.cons (.ok ⟨⟨by decide, javaFencing, rfl⟩, rfl⟩)
      (.cons (.ok ⟨⟨by decide, javaFencing, rfl⟩, rfl⟩) .nil), rfl⟩
  exact ⟨by decide, scripted_fencedBy, hscript, run_fencesInvisible scripted_fencedBy hscript j⟩

end Repair
end Testsmith
