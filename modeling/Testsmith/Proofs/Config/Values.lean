/-
# Written values read back

The values of a configuration are texts, lists of texts, whole numbers and one number with a point.
What is written for each of them is read as the value, where the line or the member of a list ends
after it (`States`). Lists are written in one line up to one member, and with each member on a line
of its own from two on.

Key definitions: `Config.EndsValue`, `Config.States`, `Config.RoundTrips`.
Key theorems: `Config.states_text`, `Config.states_nat`, `Config.states_float`,
`Config.states_texts`.
-/
import Testsmith.Config.Toml
import Testsmith.Proofs.Toml.Numbers
import Testsmith.Proofs.Toml.Texts

namespace Testsmith.Config

open Toml

/-- What a value ends before: the end of its line, a comma or a closing bracket. -/
def EndsValue (rest : List Char) : Prop := ∃ c cs, rest = c :: cs ∧ c ∈ ['\n', ',', ']']

/-- The text is read as the value, with so many brackets left to open. -/
def States (depth : Nat) (text : String) (v : Value) : Prop :=
  ∀ rest, EndsValue rest → readValue depth (text.toList ++ rest) = some (v, rest)

theorem EndsValue.not_quote {rest : List Char} (h : EndsValue rest) (f : TextForm) :
    rest.head? ≠ some f.quote := by
  obtain ⟨c, cs, rfl, hc⟩ := h
  intro heq
  rw [Option.some.inj heq] at hc
  rcases quote_eq f with hq | hq <;> rw [hq] at hc <;> exact absurd hc (by decide)

theorem EndsValue.endsRun {rest : List Char} (h : EndsValue rest) : EndsRun rest := by
  obtain ⟨c, cs, rfl, hc⟩ := h
  have hboth : ∀ c ∈ ['\n', ',', ']'], isScalarChar c = false ∧ c ≠ ' ' :=
    List.forall_iff_forall_mem.mp (by decide)
  exact ⟨c, cs, rfl, hboth c hc⟩

/-! ### Texts -/

theorem write_eq_fence (cs : List Char) : ∃ more, write cs = (TextForm.of cs).fence ++ more := by
  rw [write]
  exact ⟨_, by simp only [List.append_assoc]; rfl⟩

theorem readValue_fence (depth : Nat) (f : TextForm) (more : List Char) :
    readValue depth (f.fence ++ more) =
      (readText (f.fence ++ more)).map fun (t, cs) => (.text (String.ofList t), cs) := by
  obtain ⟨escapes, multiline⟩ := f
  cases escapes <;> cases multiline <;> cases depth <;> rfl

/-- **A written text states it.** -/
theorem states_text (depth : Nat) (s : String) : States depth (writeText s) (.text s) := by
  intro rest hrest
  obtain ⟨more, hmore⟩ := write_eq_fence s.toList
  have hread := readText_write s.toList hrest.not_quote
  rw [writeText, String.toList_ofList, hmore, List.append_assoc, readValue_fence,
    ← List.append_assoc, ← hmore, hread]
  simp only [Option.map_some, String.ofList_toList]

/-! ### Numbers -/

/-- What does not begin with a quote or a bracket is read as a run of characters. -/
theorem readValue_run {c : Char} (h : c ∉ ['"', '\'', '[', '\x7b']) (depth : Nat) (cs : List Char) :
    readValue depth (c :: cs) = readScalarValue (c :: cs) := by
  rw [readValue.eq_def]
  split
  case h_7 => rfl
  all_goals
    rename_i heq
    rw [(List.cons.inj heq).1] at h
    exact absurd h (by decide)

theorem not_mem_of_isScalarChar {c : Char} (h : isScalarChar c = true) :
    c ∉ ['"', '\'', '[', '\x7b'] := by
  have hnone : ∀ c ∈ ['"', '\'', '[', '\x7b'], isScalarChar c = false :=
    List.forall_iff_forall_mem.mp (by decide)
  exact fun hmem => Bool.false_ne_true ((hnone c hmem).symm.trans h)

theorem states_run {run : String} {v : Value} (hne : run.toList ≠ [])
    (hrun : ∀ c ∈ run.toList, isScalarChar c = true) (hv : scalar? run.toList = some v)
    (depth : Nat) : States depth run v := by
  intro rest hrest
  have hread := readScalarValue_run hrun hrest.endsRun
  obtain ⟨c, cs, hcs⟩ := List.exists_cons_of_ne_nil hne
  rw [hcs] at hrun hread hv ⊢
  rw [List.cons_append, readValue_run (not_mem_of_isScalarChar (hrun c List.mem_cons_self)),
    ← List.cons_append, hread, hv]
  rfl

/-- **The digits of a number state it.** -/
theorem states_nat {n : Nat} (h : n ≤ maxInteger) (depth : Nat) :
    States depth (toString n) (.integer n) := by
  have hdigits : (toString n).toList = Nat.toDigits 10 n := Nat.toList_repr
  refine states_run ?_ (fun c hc => ?_) ?_ depth
  · rw [hdigits]
    exact Nat.toDigits_ne_nil
  · rw [hdigits] at hc
    exact isScalarChar_of_isDigit (Nat.isDigit_of_mem_toDigits (by decide) (by decide) hc)
  · rw [hdigits]
    exact scalar?_toDigits h

/-- The text that is printed for the number is read as it. -/
def RoundTrips (x : Float) : Prop := float? (FloatLayout.pointed.write x).toList = some x

instance (x : Float) : Decidable (RoundTrips x) := inferInstanceAs (Decidable (_ = _))

theorem states_float {x : Float} (h : RoundTrips x) (depth : Nat) :
    States depth (FloatLayout.pointed.write x) (.float x) := by
  have htext := isFloatText_write x
  refine states_run (fun hnil => ?_) htext.scalarChars ?_ depth
  · rw [RoundTrips, hnil] at h
    cases h
  · rw [htext.scalar?, h]
    rfl

/-- No value begins with a blank. -/
theorem States.skipBlanks {depth : Nat} {text : String} {v : Value} (h : States depth text v)
    (more : List Char) : skipBlanks (text.toList ++ more) = text.toList ++ more := by
  have hread := h ['\n'] ⟨'\n', [], rfl, by decide⟩
  have hnone {c : Char} (hc : c ∈ [' ', '\t', '\n']) (cs : List Char) :
      readValue depth (c :: cs) = none := by
    have hboth : ∀ c ∈ [' ', '\t', '\n'],
        isScalarChar c = false ∧ c ∉ ['"', '\'', '[', '\x7b'] :=
      List.forall_iff_forall_mem.mp (by decide)
    rw [readValue_run (hboth c hc).2, readScalarValue_of_not (hboth c hc).1]
  cases htext : text.toList with
  | nil =>
    rw [htext, List.nil_append, hnone (by decide)] at hread
    cases hread
  | cons c cs =>
    have hblank : isBlank c = false := by
      by_contra hblank
      rw [Bool.not_eq_false, isBlank, Bool.or_eq_true, beq_iff_eq, beq_iff_eq] at hblank
      rw [htext, List.cons_append, hnone (by rcases hblank with rfl | rfl <;> decide)] at hread
      cases hread
    rw [List.cons_append, Toml.skipBlanks, List.dropWhile_cons_of_neg (by simp [hblank])]

/-! ### Lists -/

/-- The text from the line feed before the first of some members of a list on. -/
def members (rest : List Char) : List String → List Char
  | [] => '\n' :: ']' :: rest
  | s :: ss => '\n' :: (List.replicate 4 ' ' ++ (writeText s).toList ++ ',' :: members rest ss)

theorem toList_writeTexts (rest : List Char) {ss : List String} (h : 2 ≤ ss.length) :
    (writeTexts ss).toList ++ rest = '[' :: members rest ss := by
  have hmembers (ss : List String) :
      '\n' :: ((ss.map fun s => "    " ++ writeText s ++ ",\n").flatMap String.toList ++
        ']' :: rest) = members rest ss := by
    induction ss with
    | nil => rfl
    | cons s ss ih =>
      rw [List.map_cons, List.flatMap_cons, members, ← ih, String.toList_append,
        String.toList_append, List.append_assoc, List.append_assoc]
      simp only [List.append_assoc]
      rfl
  have hopen : "[\n".toList = ['[', '\n'] := rfl
  have hclose : "]".toList = [']'] := rfl
  have hseveral : writeTexts ss =
      "[\n" ++ String.join (ss.map fun s => "    " ++ writeText s ++ ",\n") ++ "]" := by
    rw [writeTexts.eq_def]
    split
    · cases h
    · exact absurd h (by simp)
    · rfl
  rw [hseveral, String.toList_append, String.toList_append, String.toList_join, hopen, hclose,
    ← hmembers]
  simp only [List.append_assoc, List.cons_append, List.nil_append]

/-- A character that begins a member of a list, or ends one. -/
def IsStart (c : Char) : Prop := isPlain c = true ∧ isBlank c = false ∧ c ≠ '#'

instance (c : Char) : Decidable (IsStart c) := inferInstanceAs (Decidable (_ ∧ _))

theorem skipBlanks_start {c : Char} (h : IsStart c) (n : Nat) (cs : List Char) :
    skipBlanks (List.replicate n ' ' ++ c :: cs) = c :: cs := by
  have hblanks : ∀ d ∈ List.replicate n ' ', isBlank d = true := by
    intro d hd
    rw [(List.mem_replicate.mp hd).2]
    rfl
  rw [skipBlanks, List.dropWhile_append_of_pos hblanks,
    List.dropWhile_cons_of_neg (by simp [h.2.1])]

theorem skipLines_start {c : Char} (h : IsStart c) (bound n : Nat) (cs : List Char) :
    skipLines (bound + 1) (List.replicate n ' ' ++ c :: cs) = some (c :: cs) := by
  rw [skipLines, skipBlanks_start h]
  split
  · rename_i heq
    exact absurd (List.cons.inj heq).1 h.2.2
  · rw [afterNewline?_of_isPlain h.1]

theorem afterSpace?_start {c : Char} (h : IsStart c) (cs : List Char) :
    afterSpace? (c :: cs) = some (c :: cs) :=
  skipLines_start h _ 0 cs

theorem afterSpace?_line {c : Char} (h : IsStart c) (n : Nat) (cs : List Char) :
    afterSpace? ('\n' :: (List.replicate n ' ' ++ c :: cs)) = some (c :: cs) := by
  rw [afterSpace?, List.length_cons, skipLines]
  exact skipLines_start h _ n cs

section Elements

variable {value : Reader Value} {bound : Nat} {c : Char} {cs more rest : List Char}
  {v : Value} {vs : List Value}

theorem readElements_end (h : afterSpace? cs = some (']' :: rest)) :
    readElements value (bound + 1) cs = some ([], rest) := by
  rw [readElements, h]
  rfl

theorem readElements_last (hc : c ≠ ']') (h : afterSpace? cs = some (c :: more))
    (hv : value (c :: more) = some (v, ']' :: rest)) :
    readElements value (bound + 1) cs = some ([v], rest) := by
  have hend := afterSpace?_start (c := ']') (by decide) rest
  rw [readElements, h]
  simp only [Option.bind_eq_bind, Option.bind_some]
  split
  · rename_i heq
    exact absurd (List.cons.inj heq).1 hc
  · rw [hv, Option.bind_some, hend]
    rfl

theorem readElements_more {next : List Char} (hc : c ≠ ']') (h : afterSpace? cs = some (c :: more))
    (hv : value (c :: more) = some (v, ',' :: next))
    (hvs : readElements value bound next = some (vs, rest)) :
    readElements value (bound + 1) cs = some (v :: vs, rest) := by
  have hnext := afterSpace?_start (c := ',') (by decide) next
  rw [readElements, h]
  simp only [Option.bind_eq_bind, Option.bind_some]
  split
  · rename_i heq
    exact absurd (List.cons.inj heq).1 hc
  · rw [hv, Option.bind_some, hnext, Option.bind_some]
    simp only [hvs, Option.bind_some]
    rfl

end Elements

theorem exists_start_writeText (s : String) :
    ∃ c cs, (writeText s).toList = c :: cs ∧ IsStart c ∧ c ≠ ']' := by
  obtain ⟨more, hmore⟩ := write_eq_fence s.toList
  have hquote (f : TextForm) : IsStart f.quote ∧ f.quote ≠ ']' := by
    rcases quote_eq f with hq | hq <;> rw [hq] <;> decide
  obtain ⟨cs, hcs⟩ : ∃ cs, (TextForm.of s.toList).fence ++ more =
      (TextForm.of s.toList).quote :: cs := by
    rw [TextForm.fence]
    cases (TextForm.of s.toList).multiline <;> exact ⟨_, rfl⟩
  refine ⟨(TextForm.of s.toList).quote, cs, ?_, hquote _⟩
  rw [writeText, String.toList_ofList, hmore, hcs]

theorem readElements_members (depth : Nat) (rest : List Char) :
    ∀ {ss : List String} {bound : Nat}, ss.length < bound →
      readElements (readValue depth) bound (members rest ss) = some (ss.map .text, rest)
  | _, 0, h => absurd h (Nat.not_lt_zero _)
  | [], bound + 1, _ => readElements_end (afterSpace?_line (by decide) 0 rest)
  | s :: ss, bound + 1, h => by
    obtain ⟨c, cs, hcs, hstart, hc⟩ := exists_start_writeText s
    have hread := states_text depth s (',' :: members rest ss) ⟨',', _, rfl, by decide⟩
    rw [hcs, List.cons_append] at hread
    rw [members, hcs, List.append_assoc, List.cons_append]
    exact readElements_more hc (afterSpace?_line hstart 4 _) hread
      (readElements_members depth rest (Nat.lt_of_succ_lt_succ h))

theorem length_le_members (rest : List Char) : ∀ ss : List String,
    ss.length < (members rest ss).length
  | [] => Nat.zero_lt_succ _
  | s :: ss => by
    have ih := length_le_members rest ss
    rw [members]
    simp only [List.length_cons, List.length_append]
    omega

theorem readValue_list (depth : Nat) (cs : List Char) :
    readValue (depth + 1) ('[' :: cs) =
      (readElements (readValue depth) (cs.length + 1) cs).map fun (vs, cs) => (.array vs, cs) := by
  rw [readValue]

/-- **A written list of texts states it.** -/
theorem states_texts (depth : Nat) (ss : List String) :
    States (depth + 1) (writeTexts ss) (.array (ss.map .text)) := by
  intro rest hrest
  match ss with
  | [] =>
    refine (readValue_list depth (']' :: rest)).trans ?_
    rw [readElements_end (afterSpace?_start (by decide) rest)]
    rfl
  | [s] =>
    obtain ⟨c, cs, hcs, hstart, hc⟩ := exists_start_writeText s
    have hread := states_text depth s (']' :: rest) ⟨']', _, rfl, by decide⟩
    have hlist : (writeTexts [s]).toList ++ rest =
        '[' :: ((writeText s).toList ++ ']' :: rest) := by
      have hopen : "[".toList = ['['] := rfl
      have hclose : "]".toList = [']'] := rfl
      rw [writeTexts, String.toList_append, String.toList_append, hopen, hclose]
      simp only [List.append_assoc, List.cons_append, List.nil_append]
    rw [hcs, List.cons_append] at hread hlist
    rw [hlist, readValue_list, readElements_last hc (afterSpace?_start hstart _) hread]
    rfl
  | s :: t :: ss =>
    rw [toList_writeTexts rest (by simp), readValue_list,
      readElements_members depth rest (Nat.lt_succ_of_lt (length_le_members rest _))]
    rfl

end Testsmith.Config
