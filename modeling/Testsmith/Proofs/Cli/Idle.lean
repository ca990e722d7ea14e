/-
# A command that cannot generate tests leaves all as it was

All that can be wrong with a command for tests is looked for before the run: the arguments, the path,
the configuration, the pattern, the key, the provider, and the index of the project. Whatever is wrong
is told by an exit code of its own, and nothing was done then (`invoke_refused`): no request was sent,
no build was run, and the tree is as before. The two codes of a run are 0 and 10, and which of them it
is says whether some file has failed in it.

One thing is found after the run only. A report that was asked for as JSON cannot be written if the
path of a test in it is no text, and the program ends then with the code of a refusal, though all was
done (`Completed.exitCode`). So a command for tests either runs or does nothing exactly if what it has
to report can be written (`runsOrIdles_iff_writable`), and for some projects it cannot
(`not_runsOrIdles_foreign`).

That nobody was asked is said by varying whom to ask: what came of the command is the same for every
transport and every builder. A transport may keep all requests in its state, and a build may leave any
mark in the tree.

Key definitions: `Cli.invoke`, `Cli.AsksForTests`, `Cli.Completed`, `Cli.Writable`, `Cli.Idles`,
`Cli.RunsOrIdles`, `Cli.Ends`.
Key theorems: `Cli.prepare_error`, `Cli.invoke_refused`, `Cli.Completed.exitCode`, `Cli.invoke_ends`.
-/
import Testsmith.Cli.Command
import Testsmith.Proofs.Run.Isolation

namespace Testsmith

/-! ### Reports with failures -/

namespace RunReport

/-- A report is partial when some file has failed. -/
theorem isPartial_iff {r : RunReport} :
    r.isPartial = true ↔ ∃ f ∈ r.files, ∃ failure, f.status = .failed failure := by
  rw [isPartial, failed, decide_eq_true_iff, List.countP_pos_iff]
  refine exists_congr fun f => and_congr_right fun _ => ?_
  cases f.status with
  | generated path => simp
  | skipped reason => simp
  | failed failure => simp

/-- A report is not partial when every file was either skipped or given a test. -/
theorem isPartial_eq_false_iff {r : RunReport} : r.isPartial = false ↔
    ∀ f ∈ r.files, (∃ path, f.status = .generated path) ∨ ∃ reason, f.status = .skipped reason := by
  rw [Bool.eq_false_iff, ne_eq, isPartial_iff, not_exists]
  refine forall_congr' fun f => ?_
  rw [not_and]
  refine forall_congr' fun _ => ?_
  cases f.status with
  | generated path => simp
  | skipped reason => simp
  | failed failure => simp

end RunReport

namespace Cli

variable {σ : Type}

/-- What comes of a call of the program: the number that it ends with, and the state after it. -/
def invoke (w : Surroundings σ) (arguments : List String) (s : FileTree × σ) :
    Nat × FileTree × σ :=
  match Request.parse arguments with
  | .error _ => (usageExitCode, s)
  | .ok r =>
    let (answer, s') := r.answer w s
    (answer.exitCode, s')

/-- The request is an order to generate tests. -/
def Request.isGenerate : Request → Bool
  | .run (.generate _ _ _) _ _ => true
  | _ => false

/-- The arguments ask for tests, unless they are wrong. -/
def AsksForTests (arguments : List String) : Prop :=
  (Request.parse arguments).toOption.all Request.isGenerate = true

instance (arguments : List String) : Decidable (AsksForTests arguments) :=
  inferInstanceAs (Decidable (_ = true))

/-- The request is one for a report as JSON. -/
def Request.asksForJson : Request → Bool
  | .run (.index _ json) _ _ | .run (.plan _ json _) _ _ | .run (.generate _ json _) _ _ => json
  | _ => false

/-- The arguments ask for a report as JSON. -/
def AsksForJson (arguments : List String) : Prop :=
  (Request.parse arguments).toOption.any Request.asksForJson = true

instance (arguments : List String) : Decidable (AsksForJson arguments) :=
  inferInstanceAs (Decidable (_ = true))

/-! ### Exit codes -/

namespace Failure

theorem exitCodeOfText_mem (text : String) : exitCodeOfText text ∈ [1, 2, 3] := by
  unfold exitCodeOfText
  split
  · decide
  · split
    · decide
    · decide

theorem exitCodeOfError_mem (e : Error) : exitCodeOfError e ∈ [1, 2, 3] := by
  unfold exitCodeOfError
  split
  · decide
  · decide
  · decide

theorem exitCode_foreignPath : exitCode foreignPath = 1 := by
  decide +kernel

end Failure

/-! ### What is looked at before a run -/

theorem bind_error {ε α β : Type} {x : Except ε α} {f : α → Except ε β} {e : ε}
    (h : x >>= f = .error e) : x = .error e ∨ ∃ a, x = .ok a ∧ f a = .error e := by
  cases x with
  | error e' => exact Or.inl (congrArg Except.error (Except.error.inj h))
  | ok a => exact Or.inr ⟨a, rfl, h⟩

theorem mapError_error {ε δ α : Type} {x : Except ε α} {f : ε → δ} {e : δ}
    (h : x.mapError f = .error e) : ∃ e', e = f e' := by
  cases x with
  | error e' => exact ⟨e', (Except.error.inj h).symm⟩
  | ok a => cases h

/-- A failure that is found before any work is done: the path, the project or the pattern is at
fault. -/
inductive Failure.IsFound : Failure → Prop
  | unresolved (path : String) (e : IoError) : IsFound (.unresolved path e)
  | work (doing : String) (e : Error) : IsFound (.work doing e)
  | pattern (text : String) (e : Glob.PatternError) : IsFound (.pattern text e)

theorem Failure.IsFound.exitCode_mem {f : Failure} (h : f.IsFound) : f.exitCode ∈ [1, 2, 3] := by
  cases h with
  | unresolved path e => exact exitCodeOfText_mem _
  | work doing e => exact exitCodeOfError_mem e
  | pattern text e => exact exitCodeOfText_mem _

theorem resolve_error {directory : Path} {path : String} {t : FileTree} {f : Failure}
    (h : resolve directory path t = .error f) : f.IsFound := by
  rw [resolve] at h
  split at h
  · cases h
  · rw [← Except.error.inj h]
    exact .unresolved _ _

theorem openProject_error {directory : Path} {path : String} {t : FileTree} {f : Failure}
    (h : openProject directory path t = .error f) : f.IsFound := by
  rw [openProject] at h
  rcases bind_error h with hresolve | ⟨root, -, h⟩
  · exact resolve_error hresolve
  · rcases bind_error h with hload | ⟨config, -, h⟩
    · obtain ⟨e, rfl⟩ := mapError_error hload
      exact .work _ _
    · obtain ⟨e, rfl⟩ := mapError_error h
      exact .work _ _

theorem project_error {w : Surroundings σ} {path : String} {t : FileTree} {f : Failure}
    (h : w.project path t = .error f) : f.IsFound := by
  rw [Surroundings.project] at h
  rcases bind_error h with hopen | ⟨p, -, h⟩
  · exact openProject_error hopen
  · cases h

theorem readOnly_error {only : Option String} {f : Failure} (h : readOnly only = .error f) :
    f.IsFound := by
  cases only with
  | none => cases h
  | some text =>
    have hparse : (Glob.Pattern.parse text).mapError (Failure.pattern text) = .error f := by
      cases hpattern : Glob.Pattern.parse text with
      | error e => simpa [readOnly, hpattern, Except.mapError] using h
      | ok pattern => simp [readOnly, hpattern, Except.mapError] at h
    obtain ⟨e, rfl⟩ := mapError_error hparse
    exact .pattern _ _

theorem openProvider_error {c : Config.Llm} {environment : String → Option String} {f : Failure}
    (h : openProvider c environment = .error f) : f.IsFound := by
  rw [openProvider] at h
  rcases bind_error h with hkey | ⟨key, -, h⟩
  · obtain ⟨e, rfl⟩ := mapError_error hkey
    exact .work _ _
  · obtain ⟨e, rfl⟩ := mapError_error h
    exact .work _ _

/-- What is missing for a run is told as such. -/
theorem prepare_error {w : Surroundings σ} {path : String} {only : Option String} {t : FileTree}
    {f : Failure} (h : prepare w path only t = .error f) : f.IsFound := by
  rw [prepare] at h
  rcases bind_error h with hproject | ⟨p, -, h⟩
  · exact project_error hproject
  · rcases bind_error h with honly | ⟨pattern, -, h⟩
    · exact readOnly_error honly
    · rcases bind_error h with hprovider | ⟨provider, -, h⟩
      · exact openProvider_error hprovider
      · cases h

/-! ### What comes of a command for tests -/

theorem concludeRun_exitCode (w : Surroundings σ) (json : Bool) (p : Project) (provider : Provider)
    (r : RunReport) :
    (concludeRun w json p provider r).exitCode =
      if json && !r.paths.all w.isText then 1 else if r.isPartial then 10 else 0 := by
  rw [concludeRun]
  split
  · exact Failure.exitCode_foreignPath
  · rw [Answer.exitCode]
    cases r.isPartial with
    | false => rfl
    | true => rfl

/-- The ways that a command for tests can end. -/
inductive Generation (w : Surroundings σ) (path : String) (json : Bool) (only : Option String)
    (s : FileTree × σ) : Answer × FileTree × σ → Prop
  /-- Something is missing. -/
  | unprepared {f : Failure} : prepare w path only s.1 = .error f →
      Generation w path json only s (.refused f, s)
  /-- There is no index. -/
  | unindexed {p : Project} {pattern : Option Glob.Pattern} {provider : Provider} {e : ConfigError} :
      prepare w path only s.1 = .ok (p, pattern, provider) → p.index s.1 = .error e →
      Generation w path json only s (.refused (.work "Generation run failed" (.config e)), s)
  /-- A sum of token counts does not fit. -/
  | overflowed : Generation w path json only s (.refused .overflow, s)
  /-- There is a report. -/
  | ran {p : Project} {pattern : Option Glob.Pattern} {provider : Provider} {report : RunReport}
      {events : List Progress} {s' : FileTree × σ} :
      prepare w path only s.1 = .ok (p, pattern, provider) →
      p.run (w.collaborators provider p) pattern s = .ok (report, events, s') →
      Generation w path json only s (concludeRun w json p provider report, s')

theorem generateTests_generation (w : Surroundings σ) (path : String) (json : Bool)
    (only : Option String) (s : FileTree × σ) :
    Generation w path json only s (generateTests w path json only s) := by
  rw [generateTests]
  cases hprepare : prepare w path only s.1 with
  | error f => exact .unprepared hprepare
  | ok found =>
    obtain ⟨p, pattern, provider⟩ := found
    have hrunning := p.run_running (w.collaborators provider p) pattern s
    dsimp only
    cases hrun : p.run (w.collaborators provider p) pattern s with
    | error stop =>
      rw [hrun] at hrunning
      cases hrunning with
      | unindexed hindex => exact .unindexed hprepare hindex
      | overflowed _ _ => exact .overflowed
    | ok result =>
      obtain ⟨report, events, s'⟩ := result
      exact .ran hprepare hrun

/-- Nobody is asked for what has to be there before a run. -/
theorem prepare_with (w : Surroundings σ) (transport : Http.Transport σ) (builder : Builder)
    (path : String) (only : Option String) (t : FileTree) :
    prepare { w with transport := transport, builder := builder } path only t =
      prepare w path only t :=
  rfl

/-- Without a run the command is refused, and a refusal changes nothing and is the same for every
transport and every builder. -/
theorem generateTests_refused {w : Surroundings σ} {path : String} {json : Bool}
    {only : Option String} {s : FileTree × σ}
    (hnot : ∀ p pattern provider result, prepare w path only s.1 = .ok (p, pattern, provider) →
      p.run (w.collaborators provider p) pattern s ≠ .ok result)
    (hpanic : (generateTests w path json only s).1.exitCode ≠ panicExitCode) :
    (generateTests w path json only s).1.exitCode ∈ [1, 2, 3] ∧
      ∀ (transport : Http.Transport σ) (builder : Builder),
        generateTests { w with transport := transport, builder := builder } path json only s =
          ((generateTests w path json only s).1, s) := by
  have hgeneration := generateTests_generation w path json only s
  generalize generateTests w path json only s = result at hpanic hgeneration
  cases hgeneration with
  | unprepared hprepare =>
    refine ⟨(prepare_error hprepare).exitCode_mem, fun transport builder => ?_⟩
    rw [generateTests, prepare_with, hprepare]
  | unindexed hprepare hindex =>
    refine ⟨Failure.exitCodeOfError_mem (.config _), fun transport builder => ?_⟩
    rw [generateTests, prepare_with, hprepare]
    dsimp only
    rw [Project.run, hindex]
  | overflowed => exact absurd rfl hpanic
  | ran hprepare hrun => exact absurd hrun (hnot _ _ _ _ hprepare)

/-- The command is an order to generate tests, and it was carried out: there is a report of the run,
about every source file. -/
def Completed (w : Surroundings σ) (arguments : List String) (s : FileTree × σ)
    (report : RunReport) : Prop :=
  ∃ path json only quiet verbosity p pattern provider events,
    Request.parse arguments = .ok (.run (.generate path json only) quiet verbosity) ∧
      prepare w path only s.1 = .ok (p, pattern, provider) ∧
      p.run (w.collaborators provider p) pattern s =
        .ok (report, events, (invoke w arguments s).2) ∧
      report.files.map (·.file) = (p.sources s.1 pattern).map p.display

/-- The report can be written as it was asked for. As JSON it can only have paths that are texts. -/
def Writable (w : Surroundings σ) (arguments : List String) (report : RunReport) : Prop :=
  AsksForJson arguments → report.paths.all w.isText = true

instance (w : Surroundings σ) (arguments : List String) (report : RunReport) :
    Decidable (Writable w arguments report) :=
  inferInstanceAs (Decidable (_ → _))

/-- The call does nothing. Nothing has changed after it, and nothing was asked of anyone: it would have
been the same with any transport and any builder. -/
def Idles (w : Surroundings σ) (arguments : List String) (s : FileTree × σ) : Prop :=
  ∀ (transport : Http.Transport σ) (builder : Builder),
    invoke { w with transport := transport, builder := builder } arguments s =
      ((invoke w arguments s).1, s)

/-- A command for tests either runs, or does nothing. -/
structure RunsOrIdles (w : Surroundings σ) (arguments : List String) (s : FileTree × σ) : Prop where
  /-- The codes that are not those of a run. -/
  idle : (invoke w arguments s).1 ≠ 0 → (invoke w arguments s).1 ≠ 10 → Idles w arguments s
  /-- The code for a run that some file has failed in. -/
  partially : (invoke w arguments s).1 = 10 ↔ ∃ report, Completed w arguments s report ∧
    ∃ f ∈ report.files, ∃ failure, f.status = .failed failure
  /-- The code for a run that no file has failed in. -/
  fully : (invoke w arguments s).1 = 0 ↔ ∃ report, Completed w arguments s report ∧
    ∀ f ∈ report.files, (∃ path, f.status = .generated path) ∨ ∃ reason, f.status = .skipped reason

/-- How a command for tests ends. -/
structure Ends (w : Surroundings σ) (arguments : List String) (s : FileTree × σ) : Prop where
  /-- Without a run, the code is one of those for what can be wrong before. -/
  refused : (∀ report, ¬Completed w arguments s report) →
    (invoke w arguments s).1 ∈ [1, 2, 3] ∧ Idles w arguments s
  /-- With one, the code says whether some file has failed, unless the report cannot be written. -/
  ran : ∀ report, Completed w arguments s report → (invoke w arguments s).1 =
    if Writable w arguments report then if report.isPartial then 10 else 0 else 1
  runsOrIdles_iff : RunsOrIdles w arguments s ↔
    ∀ report, Completed w arguments s report → Writable w arguments report

theorem invoke_of_parse_error {w : Surroundings σ} {arguments : List String} {s : FileTree × σ}
    {e : UsageError} (h : Request.parse arguments = .error e) :
    invoke w arguments s = (usageExitCode, s) := by
  rw [invoke, h]

theorem invoke_of_generate {w : Surroundings σ} {arguments : List String} {s : FileTree × σ}
    {path : String} {json : Bool} {only : Option String} {quiet : Bool} {verbosity : Nat}
    (h : Request.parse arguments = .ok (.run (.generate path json only) quiet verbosity)) :
    invoke w arguments s =
      ((generateTests w path json only s).1.exitCode, (generateTests w path json only s).2) := by
  rw [invoke, h]
  rfl

/-- Arguments that ask for tests are wrong, or an order to generate tests. -/
theorem AsksForTests.cases {arguments : List String} (h : AsksForTests arguments) :
    (∃ e, Request.parse arguments = .error e) ∨ ∃ path json only quiet verbosity,
      Request.parse arguments = .ok (.run (.generate path json only) quiet verbosity) := by
  rw [AsksForTests] at h
  cases hparse : Request.parse arguments with
  | error e => exact Or.inl ⟨e, rfl⟩
  | ok r =>
    rw [hparse] at h
    change r.isGenerate = true at h
    rw [Request.isGenerate.eq_def] at h
    split at h
    · exact Or.inr ⟨_, _, _, _, _, rfl⟩
    · cases h

/-- An order with a run was carried out. -/
theorem completed_of_run {w : Surroundings σ} {arguments : List String} {s s' : FileTree × σ}
    {path : String} {json : Bool} {only : Option String} {quiet : Bool} {verbosity : Nat}
    {p : Project} {pattern : Option Glob.Pattern} {provider : Provider} {report : RunReport}
    {events : List Progress}
    (hparse : Request.parse arguments = .ok (.run (.generate path json only) quiet verbosity))
    (hprepare : prepare w path only s.1 = .ok (p, pattern, provider))
    (hrun : p.run (w.collaborators provider p) pattern s = .ok (report, events, s')) :
    Completed w arguments s report := by
  refine ⟨path, json, only, quiet, verbosity, p, pattern, provider, events, hparse, hprepare, ?_,
    Project.run_files hrun⟩
  rw [invoke_of_generate hparse, generateTests, hprepare]
  dsimp only
  rw [hrun]

/-- **Without a run nothing is done**, and the code is one of those for what can be wrong before. -/
theorem invoke_refused {w : Surroundings σ} {arguments : List String} {s : FileTree × σ}
    (hasks : AsksForTests arguments) (hnot : ∀ report, ¬Completed w arguments s report)
    (hpanic : (invoke w arguments s).1 ≠ panicExitCode) :
    (invoke w arguments s).1 ∈ [1, 2, 3] ∧ Idles w arguments s := by
  unfold Idles
  rcases hasks.cases with ⟨e, hparse⟩ | ⟨path, json, only, quiet, verbosity, hparse⟩
  · rw [invoke_of_parse_error hparse]
    have hcode : usageExitCode ∈ [1, 2, 3] := by decide
    exact ⟨hcode, fun transport builder => invoke_of_parse_error hparse⟩
  · rw [invoke_of_generate hparse] at hpanic
    obtain ⟨hcode, hidle⟩ := generateTests_refused (fun _ _ _ _ hprepare hrun =>
      hnot _ (completed_of_run hparse hprepare hrun)) hpanic
    rw [invoke_of_generate hparse]
    refine ⟨hcode, fun transport builder => ?_⟩
    rw [invoke_of_generate hparse, hidle]

theorem writable_iff {w : Surroundings σ} {arguments : List String} {report : RunReport}
    {path : String} {json : Bool} {only : Option String} {quiet : Bool} {verbosity : Nat}
    (h : Request.parse arguments = .ok (.run (.generate path json only) quiet verbosity)) :
    Writable w arguments report ↔ (json && !report.paths.all w.isText) = false := by
  rw [Writable, AsksForJson, h]
  change (json = true → _) ↔ _
  cases json with
  | false => simp
  | true => simp

/-- Where all names are texts, every report can be written. -/
theorem writable_of_plain {w : Surroundings σ} (h : ∀ name, w.foreign name = false)
    (arguments : List String) (report : RunReport) : Writable w arguments report := by
  intro _
  simp [Surroundings.isText, h]

/-- **The code of an order that was carried out** is that of a run only if the report can be
written. -/
theorem Completed.exitCode {w : Surroundings σ} {arguments : List String} {s : FileTree × σ}
    {report : RunReport} (h : Completed w arguments s report) :
    (invoke w arguments s).1 =
      if Writable w arguments report then if report.isPartial then 10 else 0 else 1 := by
  obtain ⟨path, json, only, quiet, verbosity, p, pattern, provider, events, hparse, hprepare, hrun,
    -⟩ := h
  have hwritable : Writable w arguments report ↔ _ := writable_iff hparse
  rw [invoke_of_generate hparse, generateTests, hprepare]
  dsimp only
  rw [hrun, concludeRun_exitCode]
  cases hfails : json && !report.paths.all w.isText with
  | false => rw [if_neg Bool.false_ne_true, if_pos (hwritable.mpr hfails)]
  | true => rw [if_pos rfl, if_neg (by simp [hwritable, hfails])]

/-- Where reports can be written, the code says whether some file has failed. -/
theorem exitCode_iff {w : Surroundings σ} {arguments : List String} {s : FileTree × σ}
    (hasks : AsksForTests arguments) (hpanic : (invoke w arguments s).1 ≠ panicExitCode)
    (hwritable : ∀ report, Completed w arguments s report → Writable w arguments report)
    (failed : Bool) :
    (invoke w arguments s).1 = (if failed then 10 else 0) ↔
      ∃ report, Completed w arguments s report ∧ report.isPartial = failed := by
  have hran {report : RunReport} (h : Completed w arguments s report) :
      (invoke w arguments s).1 = if report.isPartial then 10 else 0 := by
    rw [h.exitCode, if_pos (hwritable report h)]
  constructor
  · intro hcode
    by_cases hcompleted : ∃ report, Completed w arguments s report
    · obtain ⟨report, hcompleted⟩ := hcompleted
      refine ⟨report, hcompleted, ?_⟩
      rw [hran hcompleted] at hcode
      revert hcode
      cases report.isPartial <;> cases failed <;> simp
    · have hrefused := (invoke_refused hasks (not_exists.mp hcompleted) hpanic).1
      rw [hcode] at hrefused
      cases failed <;> simp at hrefused
  · rintro ⟨report, hcompleted, rfl⟩
    exact hran hcompleted

/-- A command for tests either runs or does nothing exactly if what it has to report can be
written. -/
theorem runsOrIdles_iff_writable {w : Surroundings σ} {arguments : List String} {s : FileTree × σ}
    (hasks : AsksForTests arguments) (hpanic : (invoke w arguments s).1 ≠ panicExitCode) :
    RunsOrIdles w arguments s ↔
      ∀ report, Completed w arguments s report → Writable w arguments report := by
  constructor
  · intro h report hcompleted
    by_contra hnot
    have hcode : (invoke w arguments s).1 = 1 := by rw [hcompleted.exitCode, if_neg hnot]
    cases hpartial : report.isPartial with
    | false =>
      have hzero := h.fully.mpr ⟨report, hcompleted, RunReport.isPartial_eq_false_iff.mp hpartial⟩
      omega
    | true =>
      have hten := h.partially.mpr ⟨report, hcompleted, RunReport.isPartial_iff.mp hpartial⟩
      omega
  · intro hwritable
    refine ⟨fun hfully hpartially => ?_, ?_, ?_⟩
    · -- a report would have given one of the two codes
      refine (invoke_refused hasks (fun report hcompleted => ?_) hpanic).2
      have hcode := hcompleted.exitCode
      rw [if_pos (hwritable report hcompleted)] at hcode
      split at hcode
      · exact hpartially hcode
      · exact hfully hcode
    · exact (exitCode_iff hasks hpanic hwritable true).trans
        (exists_congr fun _ => and_congr_right fun _ => RunReport.isPartial_iff)
    · exact (exitCode_iff hasks hpanic hwritable false).trans
        (exists_congr fun _ => and_congr_right fun _ => RunReport.isPartial_eq_false_iff)

/-- **A command for tests is refused and does nothing, or runs**, unless it is broken off. The code of a
run says how it went if its report can be written. -/
theorem invoke_ends (w : Surroundings σ) {arguments : List String} {s : FileTree × σ}
    (hasks : AsksForTests arguments) (hpanic : (invoke w arguments s).1 ≠ panicExitCode) :
    Ends w arguments s where
  refused hnot := invoke_refused hasks hnot hpanic
  ran _ hcompleted := hcompleted.exitCode
  runsOrIdles_iff := runsOrIdles_iff_writable hasks hpanic

/-! ### A configuration that is no text of its kind -/

/-- A project with a configuration that cannot be read. -/
def unreadableTree : FileTree :=
  ⟨[(["shop"], .directory), (["shop", ".scribe"], .directory),
    (["shop", ".scribe", "config.toml"], .file "[".toUTF8), (["shop", "src"], .directory)]⟩

/-- A transport that keeps all requests, and a builder that leaves nothing in the tree. -/
def watchedSurroundings : Surroundings (List Http.Request) where
  directory := ⟨"/"⟩
  environment _ := none
  transport request sent := (none, sent ++ [request])
  builder _ _ _ _ _ := (.timedOut, ⟨[]⟩)

/-- The command is refused, and does nothing. -/
theorem ends_unreadable :
    Ends watchedSurroundings ["generate", "shop", "--json"] (unreadableTree, []) ∧
      RunsOrIdles watchedSurroundings ["generate", "shop", "--json"] (unreadableTree, []) ∧
      invoke watchedSurroundings ["generate", "shop", "--json"] (unreadableTree, []) =
        (2, unreadableTree, []) := by
  have hcode :
      (invoke watchedSurroundings ["generate", "shop", "--json"] (unreadableTree, [])).1 = 2 := by
    decide +kernel
  have hends : Ends watchedSurroundings ["generate", "shop", "--json"] (unreadableTree, []) :=
    invoke_ends watchedSurroundings (by decide +kernel) (by rw [hcode]; decide)
  have hruns : RunsOrIdles watchedSurroundings ["generate", "shop", "--json"] (unreadableTree, []) :=
    hends.runsOrIdles_iff.mpr fun report _ => writable_of_plain (fun _ => rfl) _ report
  refine ⟨hends, hruns, ?_⟩
  have hidle := hruns.idle (by rw [hcode]; decide) (by rw [hcode]; decide)
  rw [← hcode]
  exact hidle watchedSurroundings.transport watchedSurroundings.builder

/-! ### A project in a directory whose name is no text -/

/-- A project whose sources are not below it. The byte after `caf` begins no character. -/
def foreignTree : FileTree :=
  ⟨[(["caf\uFFFD"], .directory), (["caf\uFFFD", ".scribe"], .directory),
    (["caf\uFFFD", ".scribe", "config.toml"], .file "[project]\nsource_root = \"/src\"\n".toUTF8),
    (["src"], .directory), (["src", "Cart.java"], .file .empty)]⟩

/-- A chat with some code in it. -/
def chatResponse : Http.Response :=
  let message : Json := .object [("content", .text "class CartTest")]
  ⟨200, (Json.object [("choices", .array [.object [("message", message)]])]).compact.toUTF8⟩

/-- A transport that counts the requests and answers each of them with code, and a builder that
accepts it. -/
def foreignSurroundings : Surroundings Nat where
  directory := ⟨"/"⟩
  environment _ := some "key"
  transport _ count := (some chatResponse, count + 1)
  builder _ _ _ _ t := (.exited true .empty .empty, t)
  foreign name := name = "caf\uFFFD"

/-- **A run with a code of a refusal**: a request was sent and a test written, and the report of it is
lost. Asked for in lines, the same report ends with 0. -/
theorem not_runsOrIdles_foreign :
    let lines := invoke foreignSurroundings ["generate", "caf\uFFFD"] (foreignTree, 0)
    let json := invoke foreignSurroundings ["generate", "--json", "caf\uFFFD"] (foreignTree, 0)
    AsksForTests ["generate", "--json", "caf\uFFFD"] ∧
      lines.1 = 0 ∧ json.1 = 1 ∧ json.2.2 = 1 ∧
      json.2.1.has ⟨"/caf\uFFFD/src/test/java/CartTest.java"⟩ = true ∧
      ¬RunsOrIdles foreignSurroundings ["generate", "--json", "caf\uFFFD"] (foreignTree, 0) := by
  have hends :
      (invoke foreignSurroundings ["generate", "caf\uFFFD"] (foreignTree, 0)).1 = 0 ∧
        let json := invoke foreignSurroundings ["generate", "--json", "caf\uFFFD"] (foreignTree, 0)
        json.1 = 1 ∧ json.2.2 = 1 ∧
          json.2.1.has ⟨"/caf\uFFFD/src/test/java/CartTest.java"⟩ = true := by
    decide +kernel
  obtain ⟨hlines, hcode, hsent, hwritten⟩ := hends
  refine ⟨by decide +kernel, hlines, hcode, hsent, hwritten, fun h => ?_⟩
  have hidle := h.idle (by rw [hcode]; decide) (by rw [hcode]; decide) foreignSurroundings.transport
    foreignSurroundings.builder
  have hstate := congrArg (fun result => result.2.2) hidle
  exact absurd (hsent.symm.trans hstate) (by decide)

end Cli

end Testsmith
