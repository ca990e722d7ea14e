/-
# Exit codes and the words of a failure

Each failure of a command is of a kind, and each kind has an exit code of its own (`Kind.exitCode`).
A failure that the library gave no error for is known by its words alone, though, and among these are
texts that were chosen by who called the program: the pattern, and the path of the project. Where
such a text holds a word that stands for another code, the program ends with that code
(`Kind.misreading`). So two calls that fail alike end with the same code exactly if their texts are
misread alike (`exitCode_eq_iff_of_kind`): they need not (`not_exitCode_of_kind`).

Key definitions: `ErrorKind`, `Kind`, `Failure.IsOf`, `Kind.misreading`, `Fails`.
Key theorems: `Failure.IsOf.exitCode`, `run_isOf`, `exitCode_eq_iff_of_kind`.
-/
import Testsmith.Proofs.Cli.Idle
import Testsmith.Proofs.Text.Occurrence

namespace Testsmith

/-! ### The words of an error of the system -/

namespace IoError

/-- The error has words of its own. -/
def isKnown : IoError → Bool
  | other _ => false
  | _ => true

end IoError

namespace FileTree

variable {t u : FileTree} {p : Path} {l : Location} {part : String} {e : IoError}

theorem step_error (h : t.step l part = .error e) : e.isKnown = true := by
  rw [step] at h
  split at h
  · rw [← Except.error.inj h]; rfl
  · rw [← Except.error.inj h]; rfl
  · split at h
    · cases h
    · split at h
      · rw [← Except.error.inj h]; rfl
      · cases h

theorem foldlM_step_error : ∀ {parts : List String} {l : Location},
    parts.foldlM t.step l = .error e → e.isKnown = true
  | [], _, h => by cases h
  | part :: parts, l, h => by
    rw [List.foldlM_cons] at h
    rcases Cli.bind_error h with h | ⟨m, -, h⟩
    · exact step_error h
    · exact foldlM_step_error h

theorem locate_error (h : t.locate p = .error e) : e.isKnown = true := by
  rw [locate] at h
  split at h
  · rw [← Except.error.inj h]; rfl
  split at h
  · rw [← Except.error.inj h]; rfl
  split at h
  · rw [← Except.error.inj h]; rfl
  rcases Cli.bind_error h with h | ⟨m, -, h⟩
  · exact foldlM_step_error h
  · split at h
    · rw [← Except.error.inj h]; rfl
    · cases h

theorem makeDir_error (h : t.makeDir p = .error e) : e.isKnown = true := by
  rw [makeDir] at h
  rcases Cli.bind_error h with h | ⟨m, -, h⟩
  · exact locate_error h
  · split at h
    · rw [← Except.error.inj h]; rfl
    · cases h

theorem ensureDir_error (h : t.ensureDir p = .error e) : e.isKnown = true := by
  rw [ensureDir] at h
  split at h
  · rename_i e' hmade
    split at h
    · cases h
    · rw [← Except.error.inj h]
      exact makeDir_error hmade
  · exact makeDir_error h

/-- The induction is on the number of components left. -/
theorem makeDirsWithin_error : ∀ {bound : Nat} {t u : FileTree} {p : Path} {e : IoError},
    t.makeDirsWithin bound p = (.error e, u) → e.isKnown = true
  | 0, _, _, _, _, h => by cases h
  | bound + 1, t, u, p, e, h => by
    rw [makeDirsWithin] at h
    split at h
    · cases h
    split at h
    · cases h
    · split at h
      · rw [← Except.error.inj (Prod.mk.inj h).1]; rfl
      · split at h
        · rename_i hmade
          rw [← Except.error.inj (Prod.mk.inj h).1]
          exact makeDirsWithin_error hmade
        · split at h
          · cases h
          · rename_i hdir
            rw [← Except.error.inj (Prod.mk.inj h).1]
            exact ensureDir_error hdir
    · rename_i hdir
      rw [← Except.error.inj (Prod.mk.inj h).1]
      exact ensureDir_error hdir

theorem write_error {content : ByteArray} (h : t.write p content = .error e) :
    e.isKnown = true := by
  rw [write] at h
  rcases Cli.bind_error h with h | ⟨m, -, h⟩
  · exact locate_error h
  · split at h
    · rw [← Except.error.inj h]; rfl
    · cases h
    · split at h
      · rw [← Except.error.inj h]; rfl
      · cases h

end FileTree

namespace Cli

/-! ### Kinds of failures -/

/-- What an error of the library is, without its texts. -/
inductive ErrorKind
  | notFound | invalid | unreadable | credentialMissing
  | syntaxError | generation | verify | repair | io
  deriving DecidableEq, Repr

def ErrorKind.of : Error → ErrorKind
  | .config (.notFound _) => notFound
  | .config (.invalid _) => invalid
  | .config (.unreadable _) => unreadable
  | .config (.credentialMissing _) => credentialMissing
  | .syntaxError _ => syntaxError
  | .generation _ => generation
  | .verify _ => verify
  | .repair _ => repair
  | .io _ => io

/-- What fails in a call of the program, and how, without the texts in it. -/
inductive Kind
  /-- The arguments are wrong. -/
  | usage
  /-- The path of the project leads nowhere. -/
  | unresolved
  | library (kind : ErrorKind)
  /-- The pattern that chooses files is none. -/
  | pattern
  /-- There is a configuration already. -/
  | configured
  /-- The directory for the configuration could not be made. -/
  | uncreated
  /-- The configuration could not be written. -/
  | unwritten
  | incomplete
  /-- A path that is no text was to be written as JSON. -/
  | foreignPath
  /-- A path that is no text was to become part of a value. -/
  | foreignValue
  | overflow
  deriving DecidableEq, Repr

namespace Kind

/-- The exit code of a kind of failure. -/
def exitCode : Kind → Nat
  | usage => usageExitCode
  | unresolved => 3
  | library .notFound => 3
  | library .invalid | library .unreadable | library .credentialMissing => 2
  | library _ => 1
  | pattern | uncreated | foreignPath => 1
  | configured | unwritten => 2
  | incomplete => 10
  | foreignValue | overflow => panicExitCode

/-- The exit code that a text chosen by the caller stands for, if it is taken for the program's own
words and stands for another one than that of the kind. -/
def misreading (kind : Kind) (text : String) : Option Nat :=
  match kind with
  | pattern | uncreated =>
    if Failure.mentions "cannot resolve path" text then some 3
    else if Failure.mentions "config" text then some 2
    else none
  | configured | unwritten => if Failure.mentions "cannot resolve path" text then some 3 else none
  | _ => none

theorem misreading_ne_exitCode {kind : Kind} {text : String} {code : Nat}
    (h : kind.misreading text = some code) : code ≠ kind.exitCode := by
  cases kind with
  | pattern | uncreated =>
    rw [misreading] at h
    split at h
    · cases h; decide
    · split at h
      · cases h; decide
      · cases h
  | configured | unwritten =>
    rw [misreading] at h
    split at h
    · cases h; decide
    · cases h
  | _ => cases h

/-- Texts are misread alike if that leads to the same code. -/
theorem getD_misreading_eq_iff {kind : Kind} {text text' : String} :
    (kind.misreading text).getD kind.exitCode = (kind.misreading text').getD kind.exitCode ↔
      kind.misreading text = kind.misreading text' := by
  cases h : kind.misreading text with
  | none =>
    cases h' : kind.misreading text' with
    | none => simp
    | some code' => simp [(misreading_ne_exitCode h').symm]
  | some code =>
    cases h' : kind.misreading text' with
    | none => simp [misreading_ne_exitCode h]
    | some code' => simp

end Kind

/-- The failure is of the kind, and the text in it is chosen by the caller: the pattern, or the path of
the project. -/
inductive Failure.IsOf : Failure → Kind → String → Prop
  | unresolved (path : String) (e : IoError) : IsOf (.unresolved path e) .unresolved path
  | library (doing : String) (e : Error) : IsOf (.work doing e) (.library (.of e)) e.causeMessage
  | pattern (text : String) (e : Glob.PatternError) : IsOf (.pattern text e) .pattern text
  | configured {root : Path} (absolute : root.isAbsolute = true) :
      IsOf (.configured (Config.pathFor root)) .configured root.text
  | uncreated {root : Path} {e : IoError} (absolute : root.isAbsolute = true)
      (known : e.isKnown = true) :
      IsOf (.unwritten ("Cannot create " ++ (root.join Config.directoryName).text) e) .uncreated
        root.text
  | unwritten {root : Path} {e : IoError} (absolute : root.isAbsolute = true)
      (known : e.isKnown = true) :
      IsOf (.unwritten ("Cannot write config: " ++ (Config.pathFor root).text) e) .unwritten root.text
  | incomplete (failed total : Nat) : IsOf (.incomplete failed total) .incomplete ""
  | foreignPath : IsOf .foreignPath .foreignPath ""
  | foreignValue : IsOf .foreignValue .foreignValue ""
  | overflow : IsOf .overflow .overflow ""

/-! ### Words in a message -/

namespace Failure

/-- The words by which a failure is known. -/
def words : List String := ["cannot resolve path", "config"]

variable {word : String}

theorem mentions_iff {text : String} :
    mentions word text = true ↔ word.toList <:+: text.toList.map Char.toLower := by
  rw [mentions, Text.occursIn_iff]

/-- Texts of the program's own that stand in messages and mention none of the words. -/
def silentTexts : List String :=
  ["", Config.directoryName, "Pattern syntax error near position ", "Invalid --only pattern",
    "Cannot create ", " Use --force to overwrite."] ++
  [Glob.Fault.tooManyStars, .starsInComponent, .badClass].map Glob.Fault.text ++
  [IoError.notFound, .alreadyThere, .notDirectory, .isDirectory, .notEmpty, .busy, .denied,
    .nameTooLong, .nulInPath, .noTree, .notText].map IoError.message

theorem not_mentions_silent : ∀ word ∈ words, ∀ text ∈ silentTexts, mentions word text = false := by
  decide +kernel

/-- Texts of the program's own that mention one of the words: that of a configuration. -/
def configTexts : List String :=
  ["config.toml", "Scribe config already exists at ", "Cannot write config: "]

theorem mentions_configTexts : ∀ text ∈ configTexts,
    mentions "cannot resolve path" text = false ∧ mentions "config" text = true := by
  decide +kernel

theorem mentions_resolve : mentions "cannot resolve path" "Cannot resolve path" = true := by
  decide +kernel

theorem head_of_mem_words (h : word ∈ words) : word.toList.head? = some 'c' := by
  revert word
  decide

theorem not_mem_of_mem_words (h : word ∈ words) :
    ':' ∉ word.toList ∧ '/' ∉ word.toList ∧ '.' ∉ word.toList := by
  revert word
  decide

theorem ne_nil_of_mem_words (h : word ∈ words) : word.toList ≠ [] := by
  revert word
  decide

/-- A word is mentioned on one side of a character that it does not have. -/
theorem mentions_append {left right : String} {separator : Char}
    (h : separator.toLower ∉ word.toList) :
    mentions word (left ++ String.singleton separator ++ right) =
      (mentions word left || mentions word right) := by
  rw [Bool.eq_iff_iff, Bool.or_eq_true, mentions_iff, mentions_iff, mentions_iff]
  have hcut : (left ++ String.singleton separator ++ right).toList.map Char.toLower =
      left.toList.map Char.toLower ++ separator.toLower :: right.toList.map Char.toLower := by
    simp
  rw [hcut, Text.infix_append_separator h]

/-- A blank before a text is in none of the words at their start. -/
theorem mentions_blank (h : word ∈ words) (text : String) :
    mentions word (" " ++ text) = mentions word text := by
  rw [Bool.eq_iff_iff, mentions_iff, mentions_iff]
  have hcons : (" " ++ text).toList.map Char.toLower = ' ' :: text.toList.map Char.toLower := by
    simp
  rw [hcons, Text.infix_cons_of_head (ne_nil_of_mem_words h)]
  rw [head_of_mem_words h]
  decide

theorem isRelative_directoryName : (⟨Config.directoryName⟩ : Path).isAbsolute = false :=
  Path.not_isAbsolute (by simp [Config.directoryName])

theorem isRelative_fileName : (⟨"config.toml"⟩ : Path).isAbsolute = false :=
  Path.not_isAbsolute (by simp)

/-- A path mentions what one of its two parts does. -/
theorem mentions_join (h : word ∈ words) (p : Path) {s : String}
    (hs : (⟨s⟩ : Path).isAbsolute = false) :
    mentions word (p.join s).text = (mentions word p.text || mentions word s) := by
  have hslash : ('/' : Char).toLower ∉ word.toList := (not_mem_of_mem_words h).2.1
  have hnothing : mentions word "" = false := not_mentions_silent word h "" (by simp [silentTexts])
  rw [Path.join, Path.push, hs, if_neg (by simp)]
  by_cases hempty : p.text.isEmpty = true
  · have htext : p.text = "" := by simpa using hempty
    simp [htext, hnothing]
  by_cases hends : p.text.endsWith "/" = true
  · obtain ⟨cs, hcs⟩ := Path.endsWith_iff.mp hends
    have htext : p.text = String.ofList cs ++ String.singleton '/' ++ "" := by
      rw [← String.toList_inj, ← hcs]
      simp
    rw [if_pos (by simp [hends]), htext, String.append_empty, mentions_append hslash,
      ← String.append_empty (s := String.ofList cs ++ String.singleton '/'), mentions_append hslash,
      hnothing, Bool.or_false]
  · rw [if_neg (by simp [hempty, hends]), show "/" = String.singleton '/' from rfl,
      mentions_append hslash]

theorem mentions_folder (h : word ∈ words) (root : Path) :
    mentions word (root.join Config.directoryName).text = mentions word root.text := by
  rw [mentions_join h root isRelative_directoryName,
    not_mentions_silent word h Config.directoryName (by simp [silentTexts]), Bool.or_false]

theorem mentions_pathFor (root : Path) :
    mentions "cannot resolve path" (Config.pathFor root).text =
      mentions "cannot resolve path" root.text := by
  rw [Config.pathFor, mentions_join (by decide) _ isRelative_fileName, mentions_folder (by decide),
    (mentions_configTexts "config.toml" (by simp [configTexts])).1, Bool.or_false]

/-- The message of an error of the system mentions none of the words. -/
theorem not_mentions_known (h : word ∈ words) {e : IoError} (he : e.isKnown = true) :
    mentions word e.message = false := by
  refine not_mentions_silent word h _ (List.mem_append_right _ (List.mem_map_of_mem ?_))
  cases e with
  | other text => cases he
  | _ => simp

theorem mentions_colon (h : word ∈ words) (left right : String) :
    mentions word (left ++ ": " ++ right) = (mentions word left || mentions word right) := by
  have hcut : left ++ ": " ++ right = left ++ String.singleton ':' ++ (" " ++ right) := by
    rw [show ": " = String.singleton ':' ++ " " from rfl]
    simp only [String.append_assoc]
  rw [hcut, mentions_append (not_mem_of_mem_words h).1, mentions_blank h]

theorem toLower_of_isDigit {c : Char} (h : c.isDigit = true) : c.toLower = c := by
  simp only [Char.isDigit, Bool.and_eq_true, decide_eq_true_eq] at h
  refine dif_neg fun hupper => ?_
  exact absurd (UInt32.le_trans hupper.1 h.2) (by decide)

theorem any_isDigit_of_mem_words (h : word ∈ words) : word.toList.any Char.isDigit = false := by
  revert word
  decide

/-- No word goes on in a number. -/
theorem mentions_append_number (h : word ∈ words) (left : String) (n : Nat) :
    mentions word (left ++ toString n) = mentions word left := by
  rw [Bool.eq_iff_iff, mentions_iff, mentions_iff, String.toList_append, List.map_append]
  refine Text.infix_append_foreign fun c hc hmem => ?_
  rw [show (toString n).toList = Nat.toDigits 10 n from Nat.toList_repr] at hc
  obtain ⟨d, hd, rfl⟩ := List.mem_map.mp hc
  have hdigit : d.isDigit = true := Nat.isDigit_of_mem_toDigits (by decide) (by decide) hd
  rw [toLower_of_isDigit hdigit] at hmem
  exact absurd hdigit (List.any_eq_false.mp (any_isDigit_of_mem_words h) d hmem)

/-- The message of a fault in a pattern mentions none of the words. -/
theorem not_mentions_fault (h : word ∈ words) (e : Glob.PatternError) :
    mentions word e.message = false := by
  have hfault : mentions word e.fault.text = false := by
    refine not_mentions_silent word h _
      (List.mem_append_left _ (List.mem_append_right _ (List.mem_map_of_mem ?_)))
    cases e.fault <;> simp
  have hfront : mentions word "Pattern syntax error near position " = false :=
    not_mentions_silent word h _ (by simp [silentTexts])
  unfold Glob.PatternError.message
  rw [mentions_colon h (_ ++ toString e.position) e.fault.text, hfault, Bool.or_false,
    mentions_append_number h, hfront]

/-- In front of a path from the top stands no part of a word that goes on in it. -/
theorem mentions_absolute (h : word ∈ words) (left : String) {p : Path}
    (hp : p.isAbsolute = true) :
    mentions word (left ++ p.text) = (mentions word left || mentions word p.text) := by
  obtain ⟨rest, hrest⟩ := Path.isAbsolute_iff.mp hp
  have hslash : ('/' : Char).toLower ∉ word.toList := (not_mem_of_mem_words h).2.1
  have htext : p.text = "" ++ String.singleton '/' ++ String.ofList rest := by
    rw [← String.toList_inj, ← hrest]
    simp
  have hnothing : mentions word "" = false := not_mentions_silent word h "" (by simp [silentTexts])
  rw [htext, mentions_append hslash, hnothing, Bool.false_or, String.empty_append,
    ← String.append_assoc, mentions_append hslash]

theorem isAbsolute_join {p : Path} {s : String} (hp : p.isAbsolute = true)
    (hs : (⟨s⟩ : Path).isAbsolute = false) : (p.join s).isAbsolute = true := by
  rw [Path.isAbsolute_iff] at hp ⊢
  rw [Path.join, Path.push, hs, if_neg (by simp)]
  split
  · rw [String.toList_append]
    exact hp.trans (List.prefix_append _ _)
  · rw [String.toList_append, String.toList_append, List.append_assoc]
    exact hp.trans (List.prefix_append _ _)

theorem isAbsolute_folder {root : Path} (h : root.isAbsolute = true) :
    (root.join Config.directoryName).isAbsolute = true :=
  isAbsolute_join h isRelative_directoryName

theorem isAbsolute_pathFor {root : Path} (h : root.isAbsolute = true) :
    (Config.pathFor root).isAbsolute = true :=
  isAbsolute_join (isAbsolute_folder h) isRelative_fileName

/-! ### What the messages mention -/

/-- A path that leads nowhere is told of in words that stand for its exit code. -/
theorem mentions_message_unresolved (path : String) (e : IoError) :
    mentions "cannot resolve path" (message (.unresolved path e)) = true := by
  have hwords : "Cannot resolve path: " = "Cannot resolve path" ++ ": " := by simp
  unfold message
  rw [mentions_colon (by decide) (_ ++ path) e.message, hwords,
    mentions_colon (by decide) "Cannot resolve path" path, mentions_resolve, Bool.true_or,
    Bool.true_or]

/-- The message on a text that is no pattern mentions what the text does. -/
theorem mentions_message_pattern (text : String) (e : Glob.PatternError) (h : word ∈ words) :
    mentions word (message (.pattern text e)) = mentions word text := by
  have hwords : "Invalid --only pattern: " = "Invalid --only pattern" ++ ": " := by simp
  have hfront : mentions word "Invalid --only pattern" = false :=
    not_mentions_silent word h _ (by simp [silentTexts])
  unfold message
  rw [mentions_colon h (_ ++ text) e.message, not_mentions_fault h, Bool.or_false, hwords,
    mentions_colon h "Invalid --only pattern" text, hfront, Bool.false_or]

/-- The message on something that is there already mentions what its path does, and what the words in
front of it do. -/
theorem mentions_message_configured {p : Path} (hp : p.isAbsolute = true) (h : word ∈ words) :
    mentions word (message (.configured p)) =
      (mentions word "Scribe config already exists at " || mentions word p.text) := by
  have hcut : message (.configured p) =
      "Scribe config already exists at " ++ p.text ++ String.singleton '.' ++
        " Use --force to overwrite." := by
    unfold message
    rw [show ". Use --force to overwrite." = String.singleton '.' ++ " Use --force to overwrite."
      by simp]
    simp only [String.append_assoc]
  have hback : mentions word " Use --force to overwrite." = false :=
    not_mentions_silent word h _ (by simp [silentTexts])
  rw [hcut, mentions_append (not_mem_of_mem_words h).2.2, hback, Bool.or_false,
    mentions_absolute h _ hp]

/-- And so does the message on something that could not be written. -/
theorem mentions_message_unwritten (front : String) {p : Path} {e : IoError}
    (hp : p.isAbsolute = true) (he : e.isKnown = true) (h : word ∈ words) :
    mentions word (message (.unwritten (front ++ p.text) e)) =
      (mentions word front || mentions word p.text) := by
  unfold message
  rw [mentions_colon h (_ ++ p.text) e.message, not_mentions_known h he, Bool.or_false,
    mentions_absolute h _ hp]

/-- The message on a directory that could not be made mentions what the path of the project does. -/
theorem mentions_message_uncreated {root : Path} {e : IoError} (hroot : root.isAbsolute = true)
    (he : e.isKnown = true) (h : word ∈ words) :
    mentions word (message (.unwritten
      ("Cannot create " ++ (root.join Config.directoryName).text) e)) = mentions word root.text := by
  have hfront : mentions word "Cannot create " = false :=
    not_mentions_silent word h _ (by simp [silentTexts])
  rw [mentions_message_unwritten _ (isAbsolute_folder hroot) he h, hfront, Bool.false_or,
    mentions_folder h]

/-! ### The exit code of a failure -/

theorem exitCodeOfText_of_config {text : String} (h : mentions "config" text = true) :
    exitCodeOfText text = (if mentions "cannot resolve path" text then some 3 else none).getD 2 := by
  rw [exitCodeOfText, h]
  cases mentions "cannot resolve path" text <;> rfl

theorem exitCodeOfText_eq (text : String) :
    exitCodeOfText text = (if mentions "cannot resolve path" text then some 3
      else if mentions "config" text then some 2 else none).getD 1 := by
  rw [exitCodeOfText]
  cases mentions "cannot resolve path" text <;> cases mentions "config" text <;> rfl

theorem exitCodeOfText_congr {text text' : String}
    (h : ∀ word ∈ words, mentions word text = mentions word text') :
    exitCodeOfText text = exitCodeOfText text' := by
  rw [exitCodeOfText, exitCodeOfText, h _ (by decide), h _ (by decide)]

/-- Words of the program's own that speak of a configuration, with the path of one, have its exit code
unless that of the project is misread. -/
theorem exitCodeOfText_of_configText {text front : String} {root : Path}
    (hfront : front ∈ configTexts)
    (h : ∀ word ∈ words, mentions word text =
      (mentions word front || mentions word (Config.pathFor root).text)) :
    exitCodeOfText text =
      (if mentions "cannot resolve path" root.text then some 3 else none).getD 2 := by
  obtain ⟨hnot, hconfig⟩ := mentions_configTexts front hfront
  rw [exitCodeOfText_of_config, h _ (by decide), hnot, Bool.false_or, mentions_pathFor]
  rw [h _ (by decide), hconfig, Bool.true_or]

/-- **A failure has the exit code of its kind, unless a text in it is misread.** -/
theorem IsOf.exitCode {f : Failure} {kind : Kind} {text : String} (h : f.IsOf kind text) :
    f.exitCode = (kind.misreading text).getD kind.exitCode := by
  cases h with
  | unresolved _ e =>
    rw [Failure.exitCode, exitCodeOfText, mentions_message_unresolved]
    · rfl
    all_goals simp
  | library doing e =>
    rw [Failure.exitCode]
    cases e with
    | config e => cases e <;> rfl
    | _ => rfl
  | pattern text e =>
    rw [Failure.exitCode, exitCodeOfText_congr fun _ => mentions_message_pattern text e,
      exitCodeOfText_eq]
    · rfl
    all_goals simp
  | configured absolute =>
    rw [Failure.exitCode, exitCodeOfText_of_configText (by simp [configTexts]) fun _ =>
      mentions_message_configured (isAbsolute_pathFor absolute)]
    · rfl
    all_goals simp
  | uncreated absolute known =>
    rw [Failure.exitCode, exitCodeOfText_congr fun _ => mentions_message_uncreated absolute known,
      exitCodeOfText_eq]
    · rfl
    all_goals simp
  | unwritten absolute known =>
    rw [Failure.exitCode, exitCodeOfText_of_configText (by simp [configTexts]) fun _ =>
      mentions_message_unwritten _ (isAbsolute_pathFor absolute) known]
    · rfl
    all_goals simp
  | incomplete failed total => rfl
  | foreignPath => exact exitCode_foreignPath
  | foreignValue => rfl
  | overflow => rfl

end Failure

/-! ### The failure of a command -/

variable {σ τ : Type}

theorem Failure.IsFound.isOf {f : Failure} (h : f.IsFound) : ∃ kind text, f.IsOf kind text := by
  cases h with
  | unresolved path e => exact ⟨_, _, .unresolved path e⟩
  | work doing e => exact ⟨_, _, .library doing e⟩
  | pattern text e => exact ⟨_, _, .pattern text e⟩

theorem isAbsolute_of_resolve {directory root : Path} {path : String} {t : FileTree}
    (h : resolve directory path t = .ok root) : root.isAbsolute = true := by
  rw [resolve] at h
  split at h
  · rw [← Except.ok.inj h, Path.isAbsolute_iff]
    exact ⟨_, by rw [String.toList_append]; rfl⟩
  · cases h

theorem writeConfig_isOf {directory : Path} {path : String} {force : Bool} {t u : FileTree}
    {f : Failure} (h : writeConfig directory path force t = (.error f, u)) :
    ∃ kind text, f.IsOf kind text := by
  rw [writeConfig] at h
  split at h
  · rename_i hresolve
    rw [← Except.error.inj (Prod.mk.inj h).1]
    exact (resolve_error hresolve).isOf
  rename_i root hresolve
  have habsolute := isAbsolute_of_resolve hresolve
  dsimp only at h
  split at h
  · rw [← Except.error.inj (Prod.mk.inj h).1]
    exact ⟨_, _, .configured habsolute⟩
  split at h
  · rw [← Except.error.inj (Prod.mk.inj h).1]
    exact ⟨_, _, .library _ _⟩
  split at h
  · rename_i hmade
    rw [← Except.error.inj (Prod.mk.inj h).1]
    exact ⟨_, _, .uncreated habsolute (FileTree.makeDirsWithin_error hmade)⟩
  split at h
  · rename_i hwrite
    rw [← Except.error.inj (Prod.mk.inj h).1]
    exact ⟨_, _, .unwritten habsolute (FileTree.write_error hwrite)⟩
  · cases h

theorem listIndex_isOf {w : Surroundings σ} {path : String} {json : Bool} {t : FileTree}
    {f : Failure} (h : listIndex w path json t = .error f) : ∃ kind text, f.IsOf kind text := by
  rw [listIndex] at h
  rcases bind_error h with hproject | ⟨p, -, h⟩
  · exact (project_error hproject).isOf
  rcases bind_error h with hindex | ⟨index, -, h⟩
  · obtain ⟨e, rfl⟩ := mapError_error hindex
    exact ⟨_, _, .library _ _⟩
  split at h
  · cases h
  split at h
  · cases h
  · rw [← Except.error.inj h]
    exact ⟨_, _, .foreignValue⟩

theorem showPlan_isOf {w : Surroundings σ} {path : String} {json : Bool} {only : Option String}
    {t : FileTree} {f : Failure} (h : showPlan w path json only t = .error f) :
    ∃ kind text, f.IsOf kind text := by
  rw [showPlan] at h
  rcases bind_error h with hproject | ⟨p, -, h⟩
  · exact (project_error hproject).isOf
  rcases bind_error h with honly | ⟨pattern, -, h⟩
  · exact (readOnly_error honly).isOf
  rcases bind_error h with hplan | ⟨plan, -, h⟩
  · obtain ⟨e, rfl⟩ := mapError_error hplan
    exact ⟨_, _, .library _ _⟩
  split at h
  · cases h
  split at h
  · cases h
  · rw [← Except.error.inj h]
    exact ⟨_, _, .foreignPath⟩

theorem answerOf_failure {result : Except Failure String} {f : Failure}
    (h : (answerOf result).failure = some f) : result = .error f := by
  cases result with
  | ok text => cases h
  | error g => rw [← Option.some.inj h]

/-- **Every failure of a command is of some kind.** -/
theorem run_isOf {w : Surroundings σ} {c : Command} {s : FileTree × σ} {f : Failure}
    (h : (c.run w s).1.failure = some f) : ∃ kind text, f.IsOf kind text := by
  cases c with
  | init path force =>
    have hresult := answerOf_failure h
    exact writeConfig_isOf (u := (writeConfig w.directory path force s.1).2) (Prod.ext hresult rfl)
  | index path json => exact listIndex_isOf (answerOf_failure h)
  | plan path json only => exact showPlan_isOf (answerOf_failure h)
  | generate path json only =>
    have hgeneration := generateTests_generation w path json only s
    change (generateTests w path json only s).1.failure = some f at h
    generalize generateTests w path json only s = result at h hgeneration
    cases hgeneration with
    | unprepared hprepare =>
      rw [← Option.some.inj h]
      exact (prepare_error hprepare).isOf
    | unindexed _ _ =>
      rw [← Option.some.inj h]
      exact ⟨_, _, .library _ _⟩
    | overflowed =>
      rw [← Option.some.inj h]
      exact ⟨_, _, .overflow⟩
    | ran _ _ =>
      rw [concludeRun] at h
      split at h
      · rw [← Option.some.inj h]
        exact ⟨_, _, .foreignPath⟩
      dsimp only at h
      split at h
      · rw [← Option.some.inj h]
        exact ⟨_, _, .incomplete _ _⟩
      · cases h

/-! ### Calls of the program -/

/-- The call fails in the way of the kind, and the text is the one in its failure that the caller has
chosen. -/
inductive Fails (w : Surroundings σ) (arguments : List String) (s : FileTree × σ) :
    Kind → String → Prop
  | usage {e : UsageError} : Request.parse arguments = .error e →
      Fails w arguments s .usage e.message
  | failed {r : Request} {f : Failure} {kind : Kind} {text : String} :
      Request.parse arguments = .ok r → (r.answer w s).1.failure = some f → f.IsOf kind text →
      Fails w arguments s kind text

theorem Fails.exitCode {w : Surroundings σ} {arguments : List String} {s : FileTree × σ}
    {kind : Kind} {text : String} (h : Fails w arguments s kind text) :
    (invoke w arguments s).1 = (kind.misreading text).getD kind.exitCode := by
  cases h with
  | usage hparse =>
    rw [invoke_of_parse_error hparse]
    rfl
  | failed hparse hfailure hof =>
    rw [invoke, hparse]
    dsimp only
    rw [Answer.exitCode, hfailure]
    exact hof.exitCode

/-- A call that does not end with 0 has failed in some way. -/
theorem exists_fails {w : Surroundings σ} {arguments : List String} {s : FileTree × σ}
    (h : (invoke w arguments s).1 ≠ 0) : ∃ kind text, Fails w arguments s kind text := by
  cases hparse : Request.parse arguments with
  | error e => exact ⟨_, _, .usage hparse⟩
  | ok r =>
    cases hfailure : (r.answer w s).1.failure with
    | none =>
      rw [invoke, hparse] at h
      dsimp only at h
      rw [Answer.exitCode, hfailure] at h
      exact absurd rfl h
    | some f =>
      cases r with
      | help => cases hfailure
      | version => cases hfailure
      | run c quiet verbosity =>
        obtain ⟨kind, text, hof⟩ := run_isOf (c := c) (w := w) (s := s) hfailure
        exact ⟨kind, text, .failed hparse hfailure hof⟩

/-- **Calls that fail in the same way end with the same code exactly if the texts in their failures are
misread alike.** Every call that does not end with 0 fails in one of the ways. -/
theorem exitCode_eq_iff_of_kind (w : Surroundings σ) (w' : Surroundings τ)
    (arguments arguments' : List String) (s : FileTree × σ) (s' : FileTree × τ) :
    ((invoke w arguments s).1 ≠ 0 → ∃ kind text, Fails w arguments s kind text) ∧
      ∀ kind text text', Fails w arguments s kind text → Fails w' arguments' s' kind text' →
        ((invoke w arguments s).1 = (invoke w' arguments' s').1 ↔
          kind.misreading text = kind.misreading text') := by
  refine ⟨exists_fails, fun kind text text' h h' => ?_⟩
  rw [h.exitCode, h'.exitCode, Kind.getD_misreading_eq_iff]

/-! ### Two patterns that are none -/

/-- A project with no files, and the usual configuration. -/
def bareTree : FileTree :=
  ⟨[(["shop"], .directory), (["shop", "src"], .directory), (["shop", "src", "main"], .directory),
    (["shop", "src", "main", "java"], .directory)]⟩

/-- A plan for the files that a text chooses, which is no pattern. -/
theorem fails_pattern {text : String} {e : Glob.PatternError}
    (hparse : Request.parse ["plan", "shop", "--only", text] =
      .ok (.run (.plan "shop" false (some text)) false 0))
    (hpattern : Glob.Pattern.parse text = .error e) :
    Fails watchedSurroundings ["plan", "shop", "--only", text] (bareTree, []) .pattern text := by
  have hopened : (watchedSurroundings.project "shop" bareTree).toOption.isSome = true := by
    decide +kernel
  have honly : readOnly (some text) = .error (.pattern text e) := by
    simp [readOnly, hpattern, Except.mapError]
  refine .failed hparse ?_ (.pattern text e)
  change (answerOf (showPlan watchedSurroundings "shop" false (some text) bareTree)).failure = _
  rw [showPlan]
  cases hproject : watchedSurroundings.project "shop" bareTree with
  | error f =>
    rw [hproject] at hopened
    cases hopened
  | ok p =>
    rw [honly]
    rfl

theorem fails_bracket : Fails watchedSurroundings ["plan", "shop", "--only", "["] (bareTree, [])
    .pattern "[" :=
  fails_pattern (e := ⟨0, .badClass⟩) (by decide +kernel) (by decide +kernel)

theorem fails_config : Fails watchedSurroundings ["plan", "shop", "--only", "config["] (bareTree, [])
    .pattern "config[" :=
  fails_pattern (e := ⟨6, .badClass⟩) (by decide +kernel) (by decide +kernel)

/-- One of the two texts is misread. -/
theorem exitCode_eq_iff_of_pattern :
    Fails watchedSurroundings ["plan", "shop", "--only", "["] (bareTree, []) .pattern "[" ∧
      Fails watchedSurroundings ["plan", "shop", "--only", "config["] (bareTree, []) .pattern
        "config[" ∧
      ((invoke watchedSurroundings ["plan", "shop", "--only", "["] (bareTree, [])).1 =
          (invoke watchedSurroundings ["plan", "shop", "--only", "config["] (bareTree, [])).1 ↔
        Kind.misreading .pattern "[" = Kind.misreading .pattern "config[") :=
  ⟨fails_bracket, fails_config, (exitCode_eq_iff_of_kind watchedSurroundings watchedSurroundings
    _ _ _ _).2 _ _ _ fails_bracket fails_config⟩

/-- **The exit code does not depend on the kind of the failure alone**: two patterns that are none, and
that differ in nothing but their texts, end the program with different codes. -/
theorem not_exitCode_of_kind :
    ¬∀ kind text text', Fails watchedSurroundings ["plan", "shop", "--only", "["] (bareTree, []) kind
        text →
      Fails watchedSurroundings ["plan", "shop", "--only", "config["] (bareTree, []) kind text' →
        (invoke watchedSurroundings ["plan", "shop", "--only", "["] (bareTree, [])).1 =
          (invoke watchedSurroundings ["plan", "shop", "--only", "config["] (bareTree, [])).1 := by
  intro hsame
  have hcodes := hsame _ _ _ fails_bracket fails_config
  rw [fails_bracket.exitCode, fails_config.exitCode] at hcodes
  exact absurd hcodes (by decide)

end Cli
end Testsmith
