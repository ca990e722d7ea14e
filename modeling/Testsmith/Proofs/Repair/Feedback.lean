/-
# What later prompts say of earlier attempts

The prompt of an attempt is made anew each time, from the request and the logs of all builds that
have failed before it. So prompts only grow: a later one is an earlier one followed by a section for
each build that failed between the two (`run_feedsBack`). This holds of the prompts that the provider
is asked with, and of those in the records of the run, which are the same.

The invariant (`Informed`) says that each prompt is made from the logs before it. It speaks of any
list with prompts and logs in it, as it is kept both by the calls and by the records.

Key definitions: `lineEnded`, `feedback`, `Informed`, `Cumulative`, `Recounts`, `FeedsBack`.
Key theorems: `TestRequest.prompt_append`, `Informed.cumulative`, `run_feedsBack`.
-/
import Testsmith.Proofs.Files.Parts
import Testsmith.Proofs.Repair.Bound

namespace Testsmith

/-- The text with a line ending, which is added if it has none. -/
def lineEnded (text : String) : String :=
  if text.toList.getLast? = some '\n' then text else text ++ "\n"

/-- The sections of a prompt for builds that failed with the given logs: for each a blank line, the
heading, and the log. -/
def feedback (logs : List String) : String :=
  String.join (logs.map fun log => "\n" ++ repairHeading ++ "\n" ++ lineEnded log)

theorem endsWith_newline_iff (text : String) :
    text.endsWith "\n" = true ↔ text.toList.getLast? = some '\n' := by
  rw [Path.endsWith_iff, List.getLast?_eq_some_iff]
  constructor
  · rintro ⟨front, hfront⟩
    exact ⟨front, hfront.symm⟩
  · rintro ⟨front, hfront⟩
    exact ⟨front, hfront.symm⟩

theorem repairSection_eq (log : String) :
    repairSection log = "\n" ++ repairHeading ++ "\n" ++ lineEnded log := by
  rw [repairSection, lineEnded]
  by_cases hended : log.toList.getLast? = some '\n'
  · rw [if_pos hended, if_pos ((endsWith_newline_iff log).mpr hended), String.append_empty]
  · have hopen : ¬log.endsWith "\n" = true := fun h => hended ((endsWith_newline_iff log).mp h)
    rw [if_neg hended, if_neg hopen, String.append_assoc]

namespace TestRequest

theorem prompt_nil (r : TestRequest) : r.prompt [] = r.basePrompt := String.append_empty

/-- More failed builds only lengthen the prompt. -/
theorem prompt_append (r : TestRequest) (logs more : List String) :
    r.prompt (logs ++ more) = r.prompt logs ++ feedback more := by
  have hsections : more.map repairSection =
      more.map fun log => "\n" ++ repairHeading ++ "\n" ++ lineEnded log :=
    List.map_congr_left fun log _ => repairSection_eq log
  calc r.prompt (logs ++ more)
      = r.basePrompt ++ (String.join (logs.map repairSection) ++
          String.join (more.map repairSection)) := by
        rw [prompt, List.map_append, String.join_append]
    _ = r.prompt logs ++ String.join (more.map repairSection) := by
        rw [prompt, String.append_assoc]
    _ = r.prompt logs ++ feedback more := by rw [hsections, feedback]

end TestRequest

/-! ### The lines of prompts -/

/-- The text ends with a line ending. -/
def EndsLine (text : String) : Prop := text.toList.getLast? = some '\n'

theorem EndsLine.append {text : String} (front : String) (h : EndsLine text) :
    EndsLine (front ++ text) := by
  rw [EndsLine] at h ⊢
  rw [String.toList_append, List.getLast?_append, h]
  rfl

theorem endsLine_newline (text : String) : EndsLine (text ++ "\n") :=
  EndsLine.append text rfl

theorem endsLine_lineEnded (text : String) : EndsLine (lineEnded text) := by
  rw [lineEnded]
  split
  · assumption
  · exact endsLine_newline text

theorem endsLine_unlines {ls : List String} (h : ls ≠ []) : EndsLine (unlines ls) := by
  rcases List.eq_nil_or_concat ls with rfl | ⟨ls, last, rfl⟩
  · exact absurd rfl h
  · have hlast : unlines (ls.concat last) = unlines ls ++ (last ++ "\n") := by
      simp [unlines, String.join_append]
    rw [hlast]
    exact (endsLine_newline last).append (unlines ls)

/-- Every prompt ends with a line ending, so that a blank line stands before the next section. -/
theorem TestRequest.endsLine_prompt (r : TestRequest) (logs : List String) :
    EndsLine (r.prompt logs) := by
  have hbase : EndsLine r.basePrompt := endsLine_unlines (by simp)
  rcases List.eq_nil_or_concat logs with rfl | ⟨logs, last, rfl⟩
  · rwa [prompt_nil]
  · have hlast : feedback [last] = "\n" ++ repairHeading ++ "\n" ++ lineEnded last := by
      simp [feedback]
    rw [List.concat_eq_append, prompt_append, hlast]
    exact ((endsLine_lineEnded last).append _).append _

namespace Repair

/-! ### Histories with prompts and logs in them -/

section
variable {α : Type} (request : TestRequest) (prompt? log? : α → Option String)

/-- Each prompt of the history is made from the logs before it. -/
def Informed (history : List α) : Prop :=
  ∀ past x rest prompt, history = past ++ x :: rest → prompt? x = some prompt →
    prompt = request.prompt (past.filterMap log?)

/-- Prompts only grow, by what has failed in between. -/
structure Cumulative (history : List α) : Prop where
  /-- The history begins with the prompt of the request. -/
  first : ∀ x ∈ history.head?, prompt? x = some request.basePrompt
  /-- A later prompt is an earlier one and the logs from there on. -/
  later : ∀ past x between y rest prompt prompt',
    history = past ++ x :: (between ++ y :: rest) → prompt? x = some prompt →
      prompt? y = some prompt' →
        prompt' = prompt ++ feedback ((x :: between).filterMap log?) ∧
          prompt.toList <+: prompt'.toList
  /-- A prompt ends with a line ending, so that what is added to it begins with a blank line. -/
  lines : ∀ x ∈ history, ∀ prompt, prompt? x = some prompt → EndsLine prompt

variable {request prompt? log?}

theorem informed_nil : Informed request prompt? log? [] := by
  intro past x rest prompt hsplit
  exact absurd hsplit (by simp)

/-- A history is informed when all but its last member are and the last is. -/
theorem informed_concat_iff {history : List α} {last : α} :
    Informed request prompt? log? (history ++ [last]) ↔
      Informed request prompt? log? history ∧
        ∀ prompt, prompt? last = some prompt →
          prompt = request.prompt (history.filterMap log?) := by
  constructor
  · intro h
    refine ⟨fun past x rest prompt hsplit hprompt => ?_, fun prompt hprompt => ?_⟩
    · have hlonger : history ++ [last] = past ++ x :: (rest ++ [last]) := by simp [hsplit]
      exact h past x (rest ++ [last]) prompt hlonger hprompt
    · exact h history last [] prompt rfl hprompt
  · rintro ⟨hpast, hlast⟩ past x rest prompt hsplit hprompt
    rcases List.eq_nil_or_concat rest with rfl | ⟨rest, z, rfl⟩
    · obtain ⟨rfl, hx⟩ := List.append_inj' hsplit rfl
      obtain rfl : last = x := by simpa using hx
      exact hlast prompt hprompt
    · have hshorter : history ++ [last] = (past ++ x :: rest) ++ [z] := by simp [hsplit]
      obtain ⟨hhistory, -⟩ := List.append_inj' hshorter rfl
      exact hpast past x rest prompt hhistory hprompt

/-- Prompts that are made from the logs before them only grow. -/
theorem Informed.cumulative {history : List α} (h : Informed request prompt? log? history)
    (hfirst : ∀ x ∈ history.head?, (prompt? x).isSome = true) :
    Cumulative request prompt? log? history where
  first := by
    intro x hx
    obtain ⟨rest, hhistory⟩ : ∃ rest, history = x :: rest := List.head?_eq_some_iff.mp hx
    obtain ⟨prompt, hprompt⟩ := Option.isSome_iff_exists.mp (hfirst x hx)
    have hbase := h [] x rest prompt hhistory hprompt
    rw [List.filterMap_nil, TestRequest.prompt_nil] at hbase
    rw [hprompt, hbase]
  later := by
    intro past x between y rest prompt prompt' hsplit hx hy
    have hprompt := h past x (between ++ y :: rest) prompt hsplit hx
    have hsplit' : history = (past ++ x :: between) ++ y :: rest := by simp [hsplit]
    have hgrown : prompt' = prompt ++ feedback ((x :: between).filterMap log?) :=
      calc prompt'
          = request.prompt ((past ++ x :: between).filterMap log?) :=
            h (past ++ x :: between) y rest prompt' hsplit' hy
        _ = request.prompt (past.filterMap log? ++ (x :: between).filterMap log?) := by
            rw [List.filterMap_append]
        _ = prompt ++ feedback ((x :: between).filterMap log?) := by
            rw [TestRequest.prompt_append, ← hprompt]
    refine ⟨hgrown, ?_⟩
    rw [hgrown, String.toList_append]
    exact List.prefix_append _ _
  lines := by
    intro x hx prompt hprompt
    obtain ⟨past, rest, hsplit⟩ := List.append_of_mem hx
    rw [h past x rest prompt hsplit hprompt]
    exact TestRequest.endsLine_prompt request _

end

/-! ### The calls and the records of a run -/

/-- The prompt of a call of the provider. -/
def Call.prompt? : Call → Option String
  | .generate prompt _ => some prompt
  | .verify _ _ => none

/-- The log of a build that failed. -/
def Call.failureLog? : Call → Option String
  | .verify _ (.ok v) => if v.success then none else some v.log
  | _ => none

variable {σ : Type} {c : Collaborators σ} {j : Job}

/-- The prompts and logs of the run are those of the calls. -/
structure Run.Tells (j : Job) (calls : List Call) (r : Run) : Prop where
  prompts : r.attempts.map (·.prompt) = calls.filterMap Call.prompt?
  failures : r.failures = calls.filterMap Call.failureLog?
  informed : Informed j.request (fun a : Attempt => some a.prompt) (·.failureLog) r.attempts

theorem map_prompt_mapLast {f : Attempt → Attempt} (hf : ∀ a, (f a).prompt = a.prompt)
    (as : List Attempt) : (mapLast f as).map (·.prompt) = as.map (·.prompt) := by
  rcases List.eq_nil_or_concat as with rfl | ⟨as, last, rfl⟩
  · rfl
  · rw [List.concat_eq_append, mapLast_append, List.map_append, List.map_append, List.map_singleton,
      List.map_singleton, hf]

/-- What is added to the last record makes no difference to the prompts. -/
theorem informed_mapLast {f : Attempt → Attempt} (hf : ∀ a, (f a).prompt = a.prompt)
    {as : List Attempt}
    (h : Informed j.request (fun a : Attempt => some a.prompt) (·.failureLog) as) :
    Informed j.request (fun a : Attempt => some a.prompt) (·.failureLog) (mapLast f as) := by
  rcases List.eq_nil_or_concat as with rfl | ⟨as, last, rfl⟩
  · exact h
  · rw [List.concat_eq_append] at h ⊢
    rw [mapLast_append, informed_concat_iff, hf]
    exact informed_concat_iff.mp h

/-- A new record has the prompt that the provider was asked with. -/
theorem Run.Tells.asked {calls past : List Call} {r next : Run} {a : Attempt}
    {answer : Except GenerationError Reply} (h : r.Tells j calls) (hf : r.Fits j past)
    (hattempts : next.attempts = r.attempts ++ [a]) (hfailures : next.failures = r.failures)
    (hprompt : a.prompt = j.request.prompt r.failures) :
    next.Tells j (calls ++ [.generate (j.request.prompt r.failures) answer]) where
  prompts := by
    rw [hattempts, List.map_append, h.prompts, List.filterMap_append, List.map_singleton, hprompt]
    rfl
  failures := by
    rw [hfailures, h.failures, List.filterMap_append]
    exact (List.append_nil _).symm
  informed := by
    rw [hattempts, informed_concat_iff]
    refine ⟨h.informed, fun prompt hsome => ?_⟩
    rw [← Option.some.inj hsome, hprompt, hf.logs]

/-- A call of the verifier adds its log, if the build failed, and leaves the prompts. -/
theorem Run.Tells.checked {calls : List Call} {r next : Run} {call : Call} (h : r.Tells j calls)
    (hcall : call.prompt? = none)
    (hprompts : next.attempts.map (·.prompt) = r.attempts.map (·.prompt))
    (hfailures : next.failures = r.failures ++ call.failureLog?.toList)
    (hinformed :
      Informed j.request (fun a : Attempt => some a.prompt) (·.failureLog) next.attempts) :
    next.Tells j (calls ++ [call]) where
  prompts := by
    rw [hprompts, h.prompts, List.filterMap_append, List.filterMap_cons_none hcall,
      List.filterMap_nil, List.append_nil]
  failures := by
    rw [hfailures, h.failures, List.filterMap_append]
    cases hlog : call.failureLog? with
    | none => rw [List.filterMap_cons_none hlog]; rfl
    | some log => rw [List.filterMap_cons_some hlog]; rfl
  informed := hinformed

/-- Whatever happens in a step, prompts and logs are those of the calls. -/
theorem tells_transition {past calls : List Call} {r : Run} {s s' : σ} {next : Step}
    (h : r.Tells j past) (hf : r.Fits j past) (ht : Transition c j r s calls next s') :
    next.run.Tells j (past ++ calls) := by
  cases ht with
  | unanswered _ _ => exact h.asked hf rfl rfl rfl
  | blank _ _ _ _ => exact h.asked hf rfl rfl rfl
  | answered _ _ _ _ => exact h.asked hf rfl rfl rfl
  | unbuilt _ _ => exact h.checked rfl rfl (List.append_nil _).symm h.informed
  | @built k artifact v _ _ _ =>
    have hlog : (Call.verify artifact (.ok v)).failureLog? =
        if v.success then none else some v.log := rfl
    rw [Job.afterBuild]
    split
    · rename_i hsuccess
      rw [if_pos hsuccess] at hlog
      apply h.checked rfl
      · apply map_prompt_mapLast
        intro a
        rfl
      · rw [hlog]
        exact (List.append_nil _).symm
      · apply informed_mapLast _ h.informed
        intro a
        rfl
    · rename_i hfailed
      rw [if_neg hfailed] at hlog
      apply h.checked rfl
      · apply map_prompt_mapLast
        intro a
        rfl
      · rw [hlog]
        rfl
      · apply informed_mapLast _ h.informed
        intro a
        rfl
  | retried _ =>
    rw [List.append_nil]
    exact ⟨h.prompts, h.failures, h.informed⟩
  | ended _ => rwa [List.append_nil]

theorem reached_tells {s₀ s : σ} {calls : List Call} {r : Run} (h : Reached c j s₀ calls r s) :
    r.Tells j calls := by
  induction h with
  | start => exact ⟨rfl, rfl, informed_nil⟩
  | step before taken ih => exact tells_transition ih (reached_fits before) (step_transition taken)

/-! ### So many steps of a run -/

/-- A call is made with the prompt that the logs so far make. -/
theorem informed_callsOf {calls : List Call} {r : Run} (s : σ)
    (h : Informed j.request Call.prompt? Call.failureLog? calls)
    (hfailures : r.failures = calls.filterMap Call.failureLog?) :
    Informed j.request Call.prompt? Call.failureLog? (calls ++ callsOf c j r s) := by
  rw [callsOf]
  cases r.state with
  | generating k =>
    refine informed_concat_iff.mpr ⟨h, fun prompt hprompt => ?_⟩
    rw [← hfailures]
    exact (Option.some.inj hprompt).symm
  | compiling k artifact =>
    refine informed_concat_iff.mpr ⟨h, fun prompt hprompt => ?_⟩
    cases hprompt
  | retrying k => rwa [List.append_nil]
  | success artifact => rwa [List.append_nil]
  | failed => rwa [List.append_nil]

/-- Every prompt that the provider is asked with is made from the logs of the builds before, also
the one in whose step the program ends. -/
theorem course_informed (s : σ) (n : Nat) :
    Informed j.request Call.prompt? Call.failureLog? (course c j s n).calls := by
  induction n with
  | zero => exact informed_nil
  | succ n ih =>
    rw [course]
    rcases course_cases (c := c) (j := j) s n with ⟨r, hr, hreached⟩ | ⟨hr, -⟩
    · have hfailures := (reached_tells hreached).failures
      simp only [Course.next, hr]
      exact informed_callsOf _ ih hfailures
    · simp only [Course.next, hr]
      exact ih

/-- A run begins with a call of the provider. -/
theorem head?_course_calls (s : σ) (n : Nat) :
    ∀ x ∈ (course c j s n).calls.head?, x.prompt?.isSome = true := by
  have hgrows (n : Nat) : ∃ more, (course c j s (n + 1)).calls = (course c j s n).calls ++ more := by
    rw [course, Course.next]
    split
    · exact ⟨[], (List.append_nil _).symm⟩
    · exact ⟨_, rfl⟩
  have hbegins (n : Nat) : ∃ prompt answer more,
      (course c j s (n + 1)).calls = .generate prompt answer :: more := by
    induction n with
    | zero => exact ⟨_, _, [], rfl⟩
    | succ n ih =>
      obtain ⟨prompt, answer, more, hn⟩ := ih
      obtain ⟨more', hn'⟩ := hgrows (n + 1)
      exact ⟨prompt, answer, more ++ more', by rw [hn', hn, List.cons_append]⟩
  intro x hx
  cases n with
  | zero => cases hx
  | succ n =>
    obtain ⟨prompt, answer, more, hn⟩ := hbegins n
    rw [hn, List.head?_cons, Option.mem_some_iff] at hx
    rw [← hx]
    rfl

/-- The records tell of the calls: their prompts are those that the provider was asked with, their
logs are those that the verifier gave, and the prompts grow by the logs. -/
structure Recounts (request : TestRequest) (calls : List Call) (attempts : List Attempt) : Prop where
  prompts : attempts.map (·.prompt) = calls.filterMap Call.prompt?
  logs : attempts.filterMap (·.failureLog) = calls.filterMap Call.failureLog?
  grows : Cumulative request (fun a : Attempt => some a.prompt) (·.failureLog) attempts

theorem reached_recounts {s₀ s : σ} {calls : List Call} {r : Run} (h : Reached c j s₀ calls r s) :
    Recounts j.request calls r.attempts where
  prompts := (reached_tells h).prompts
  logs := (reached_fits h).logs.symm.trans (reached_tells h).failures
  grows := (reached_tells h).informed.cumulative fun _ _ => rfl

variable (c j)

/-- What a run says of the builds that failed in it, after so many steps and at its end. -/
structure FeedsBack (s : σ) (n : Nat) : Prop where
  /-- The provider is asked with prompts that grow by the logs of the builds that failed. -/
  asked : Cumulative j.request Call.prompt? Call.failureLog? (course c j s n).calls
  /-- So do the prompts in the records. -/
  recorded : ∀ r, (course c j s n).result = .ok r →
    Recounts j.request (course c j s n).calls r.attempts
  /-- So do those in the records that the run ends with. -/
  ended : ∀ o s', outcome c j s = (.ok o, s') →
    Recounts j.request (callsFrom c j j.stepBound .start s) o.attempts

/-- **Feedback is exact and cumulative.** -/
theorem run_feedsBack (s : σ) (n : Nat) : FeedsBack c j s n where
  asked := (course_informed s n).cumulative (head?_course_calls s n)
  recorded := by
    intro r hr
    exact reached_recounts (course_reached hr)
  ended := by
    intro o s' ho
    obtain ⟨last, hlast, rfl⟩ := reached_callsFrom .start ho
    exact reached_recounts hlast

/-- A build that fails, an answer without code, and a third attempt: its prompt has one section. -/
theorem feedsBack_third_prompt :
    let j : Job := ⟨⟨.plain, {}, "A", "ATest", ""⟩, "", ⟨"ATest.java"⟩, .empty, 5⟩
    let s : List (Except GenerationError Reply) × List (Except VerifyError Verification) :=
      ([.ok ⟨"class A {}", ⟨1, 2⟩⟩, .ok ⟨"", ⟨3, 4⟩⟩, .ok ⟨"class B {}", ⟨5, 6⟩⟩],
        [.ok ⟨false, "no symbol"⟩])
    FeedsBack scripted j s 6 ∧ (course scripted j s 6).calls.filterMap Call.prompt? =
      [j.request.basePrompt, j.request.basePrompt ++ "\nFix compilation errors:\nno symbol\n",
        j.request.basePrompt ++ "\nFix compilation errors:\nno symbol\n"] := by
  intro j s
  exact ⟨run_feedsBack scripted j s 6, by decide +kernel⟩

end Repair
end Testsmith
