/-
# Written numbers read back

A number is written as a run of characters that what follows a value cannot go on, and as a run that
is no date: the digits of a whole number are read as that number, and a number with a point as
whatever its text stands for.

Key definitions: `Toml.EndsRun`, `Toml.maxInteger`, `Toml.IsFloatText`.
Key theorems: `Toml.readScalarValue_run`, `Toml.scalar?_toDigits`, `Toml.isFloatText_write`,
`Toml.IsFloatText.scalar?`.
-/
import Testsmith.Decimal.Layout
import Testsmith.Toml.Scalar
import Mathlib.Data.List.Basic

namespace Testsmith.Toml

/-! ### Runs of characters -/

/-- The text begins with a character that ends a number. -/
def EndsRun (rest : List Char) : Prop := ∃ c cs, rest = c :: cs ∧ isScalarChar c = false ∧ c ≠ ' '

/-- A run of characters is read as a whole. -/
theorem readScalarValue_run {run rest : List Char} (hrun : ∀ c ∈ run, isScalarChar c = true)
    (hrest : EndsRun rest) :
    readScalarValue (run ++ rest) = (scalar? run).map fun v => (v, rest) := by
  obtain ⟨c, cs, rfl, hc, hblank⟩ := hrest
  have htake : (run ++ c :: cs).takeWhile isScalarChar = run := by
    rw [List.takeWhile_append_of_pos hrun, List.takeWhile_cons_of_neg (by simp [hc]),
      List.append_nil]
  have hdrop : (run ++ c :: cs).dropWhile isScalarChar = c :: cs := by
    rw [List.dropWhile_append_of_pos hrun, List.dropWhile_cons_of_neg (by simp [hc])]
  rw [readScalarValue, htake, hdrop]
  split
  · rename_i heq
    exact absurd (List.cons.inj heq).1 hblank
  · rfl

/-- Without a run there is no value. -/
theorem readScalarValue_of_not {c : Char} (h : isScalarChar c = false) (cs : List Char) :
    readScalarValue (c :: cs) = none := by
  rw [readScalarValue, List.takeWhile_cons_of_neg (by simp [h]),
    List.dropWhile_cons_of_neg (by simp [h])]
  split <;> rfl

/-! ### Dates -/

/-- A date has a dash inside. -/
theorem isDate_of_not_dash {cs : List Char} (h : '-' ∉ cs.drop 1) : isDate cs = false := by
  rw [isDate.eq_def]
  split
  · exact absurd (by simp) h
  · rfl

/-- A time of day has a colon. -/
theorem isTime_of_not_colon {cs : List Char} (h : ':' ∉ cs) : isTime cs = false := by
  rw [isTime, afterTime?.eq_def]
  split
  · exact absurd (by simp) h
  · rfl

theorem isMoment_of_not {cs : List Char} (hdash : '-' ∉ cs.drop 1) (hcolon : ':' ∉ cs) :
    isMoment cs = false := by
  have hten : '-' ∉ (cs.take 10).drop 1 := by
    rw [List.drop_take]
    exact fun h => hdash (List.mem_of_mem_take h)
  rw [isMoment, isDate_of_not_dash hdash, isTime_of_not_colon hcolon, isDate_of_not_dash hten]
  rfl

/-! ### Digits -/

theorem isScalarChar_of_isDigit {c : Char} (h : c.isDigit = true) : isScalarChar c = true := by
  rw [isScalarChar, Char.isAlphanum, h]
  simp

theorem digitGroups?_of_forall : ∀ {cs : List Char}, cs ≠ [] → (∀ c ∈ cs, c.isDigit = true) →
    digitGroups? Char.isDigit cs = some cs
  | [c], _, h => by rw [digitGroups?, if_pos (h c List.mem_cons_self)]
  | c :: d :: cs, _, h => by
    rw [List.forall_mem_cons] at h
    have hline : d ≠ '_' := by
      rintro rfl
      exact absurd (h.2 '_' List.mem_cons_self) (by decide)
    rw [digitGroups?, if_pos h.1, digitGroups?_of_forall (List.cons_ne_nil d cs) h.2,
      Option.map_some]
    · exact fun heq => absurd heq (List.cons_ne_nil d cs)
    · exact fun cs' heq => hline (List.cons.inj heq).1

/-- In groups of digits there are only digits and underscores. -/
theorem mem_of_digitGroups? {isDigit : Char → Bool} {cs : List Char}
    (h : (digitGroups? isDigit cs).isSome) : ∀ c ∈ cs, isDigit c = true ∨ c = '_' := by
  fun_induction digitGroups? isDigit cs with
  | case1 => cases h
  | case2 d hd => exact fun c hc => Or.inl (List.mem_singleton.mp hc ▸ hd)
  | case3 => cases h
  | case4 d cs hd ih =>
    rw [Option.isSome_map] at h
    rw [List.forall_mem_cons, List.forall_mem_cons]
    exact ⟨Or.inl hd, Or.inr rfl, ih h⟩
  | case5 => cases h
  | case6 d cs _ _ hd ih =>
    rw [Option.isSome_map] at h
    rw [List.forall_mem_cons]
    exact ⟨Or.inl hd, ih h⟩
  | case7 => cases h

theorem valueOf_toDigits (n : Nat) : valueOf 10 (Nat.toDigits 10 n) = n := by
  have hdigits : valueOf 10 (Nat.toDigits 10 n) = Nat.ofDigitChars 10 (Nat.toDigits 10 n) 0 := by
    rw [valueOf, Nat.ofDigitChars_eq_foldl]
    refine List.foldl_ext _ _ _ fun m c hc => ?_
    have hdigit := Nat.isDigit_of_mem_toDigits (by decide) (by decide) hc
    rw [Text.hexValue?, if_pos hdigit, Option.getD_some]
  rw [hdigits, Nat.ofDigitChars_ten_toDigits]

/-- A number other than zero does not begin with a zero. -/
theorem head_toDigits {n : Nat} (hn : n ≠ 0) : (Nat.toDigits 10 n).head? ≠ some '0' := by
  induction n using Nat.strongRecOn with
  | ind n ih =>
    rw [Nat.toDigits_eq_if (by decide)]
    split
    · rename_i hlt
      intro heq
      have hchar : Nat.digitChar n = '0' := Option.some.inj heq
      have htoNat := Nat.toNat_digitChar_of_lt_ten hlt
      rw [hchar] at htoNat
      exact hn (by simpa using htoNat)
    · rw [List.head?_append_of_ne_nil _ Nat.toDigits_ne_nil]
      exact ih (n / 10) (by omega) (by omega)

theorem wholeDigits?_toDigits (n : Nat) :
    wholeDigits? (Nat.toDigits 10 n) = some (Nat.toDigits 10 n) := by
  rw [wholeDigits?, digitGroups?_of_forall Nat.toDigits_ne_nil
    fun c hc => Nat.isDigit_of_mem_toDigits (by decide) (by decide) hc]
  by_cases hn : n = 0
  · rw [hn]
    rfl
  · have hhead := head_toDigits hn
    split
    · rename_i heq
      rw [Option.some.inj heq] at hhead
      exact absurd rfl hhead
    · rename_i heq
      rw [Option.some.inj heq] at hhead
      exact absurd rfl hhead
    · rfl

theorem splitSign_of_not {cs : List Char} (hminus : cs.head? ≠ some '-')
    (hplus : cs.head? ≠ some '+') : splitSign cs = (false, cs) := by
  rw [splitSign.eq_def]
  split
  · exact absurd rfl hminus
  · exact absurd rfl hplus
  · rfl

/-- A number without letters has the base ten. -/
theorem integer?_of_not_letter {cs : List Char} (hx : 'x' ∉ cs) (ho : 'o' ∉ cs) (hb : 'b' ∉ cs) :
    integer? cs = ((wholeDigits? (splitSign cs).2).map fun ds =>
      if (splitSign cs).1 then -(valueOf 10 ds : Int) else valueOf 10 ds).filter isWord := by
  rw [integer?.eq_def]
  split
  · exact absurd (by simp) hx
  · exact absurd (by simp) ho
  · exact absurd (by simp) hb
  · rfl

/-- Without a date or a word, only numbers are left. -/
theorem scalar?_of_number {cs : List Char} (hdash : '-' ∉ cs.drop 1) (hcolon : ':' ∉ cs)
    (hletter : 'e' ∉ cs) :
    scalar? cs = ((integer? cs).map Value.integer).or ((float? cs).map Value.float) := by
  have hword (w : String) (hw : 'e' ∈ w.toList) : cs ≠ w.toList := fun heq => hletter (heq ▸ hw)
  rw [scalar?, if_neg (hword "true" (by decide)), if_neg (hword "false" (by decide)),
    if_neg (Bool.eq_false_iff.mp (isMoment_of_not hdash hcolon))]

/-- The largest whole number a document can state. -/
def maxInteger : Nat := 9223372036854775807

/-- **The digits of a whole number are read as it.** -/
theorem scalar?_toDigits {n : Nat} (h : n ≤ maxInteger) :
    scalar? (Nat.toDigits 10 n) = some (.integer n) := by
  have hdigit (c : Char) (hc : c ∈ Nat.toDigits 10 n) : c.isDigit = true :=
    Nat.isDigit_of_mem_toDigits (by decide) (by decide) hc
  have hnot (c : Char) (hc : c.isDigit = false) : c ∉ Nat.toDigits 10 n :=
    fun hmem => Bool.false_ne_true (hc.symm.trans (hdigit c hmem))
  have hhead (c : Char) (hc : c.isDigit = false) : (Nat.toDigits 10 n).head? ≠ some c :=
    fun heq => hnot c hc (List.mem_of_mem_head? heq)
  have hword : isWord (n : Int) = true := by
    rw [maxInteger] at h
    rw [isWord, Bool.and_eq_true, decide_eq_true_eq, decide_eq_true_eq]
    omega
  rw [scalar?_of_number (fun hmem => hnot '-' (by decide) (List.mem_of_mem_drop hmem))
      (hnot ':' (by decide)) (hnot 'e' (by decide)),
    integer?_of_not_letter (hnot 'x' (by decide)) (hnot 'o' (by decide)) (hnot 'b' (by decide)),
    splitSign_of_not (hhead '-' (by decide)) (hhead '+' (by decide)), wholeDigits?_toDigits,
    Option.map_some, if_neg Bool.false_ne_true, valueOf_toDigits, Option.filter_some_pos hword]
  rfl

/-! ### Numbers with a point -/

/-- Digits, a point and digits. -/
def IsPointed (cs : List Char) : Prop := ∃ whole fraction : List Char,
  cs = whole ++ '.' :: fraction ∧ (∀ c ∈ whole, c.isDigit = true) ∧ ∀ c ∈ fraction, c.isDigit = true

theorem IsPointed.point {cs : List Char} (h : IsPointed cs) : '.' ∈ cs := by
  obtain ⟨whole, fraction, rfl, -⟩ := h
  exact List.mem_append_right _ List.mem_cons_self

theorem IsPointed.digit {cs : List Char} (h : IsPointed cs) {c : Char} (hc : c ∈ cs) :
    c.isDigit = true ∨ c = '.' := by
  obtain ⟨whole, fraction, rfl, hwhole, hfraction⟩ := h
  rcases List.mem_append.mp hc with hc | hc
  · exact Or.inl (hwhole c hc)
  · exact (List.mem_cons.mp hc).elim Or.inr fun hc => Or.inl (hfraction c hc)

/-- A text for a floating-point number: a word, or digits with a point, after a sign or not. -/
inductive IsFloatText : List Char → Prop
  | nan : IsFloatText ['n', 'a', 'n']
  | infinite (negative : Bool) : IsFloatText ((if negative then ['-'] else []) ++ ['i', 'n', 'f'])
  | finite (negative : Bool) {cs : List Char} (h : IsPointed cs) :
    IsFloatText ((if negative then ['-'] else []) ++ cs)

theorem isDigit_of_mem_zeros {n : Nat} {c : Char} (h : c ∈ (FloatLayout.zeros n).toList) :
    c.isDigit = true := by
  rw [FloatLayout.zeros, String.toList_ofList] at h
  rw [(List.mem_replicate.mp h).2]
  decide

theorem isPointed_positional {digits : String} (hdigits : ∀ c ∈ digits.toList, c.isDigit = true)
    (point : Int) : IsPointed (FloatLayout.pointed.positional digits point).toList := by
  have hzeros (n : Nat) (c : Char) (hc : c ∈ (FloatLayout.zeros n).toList) : c.isDigit = true :=
    isDigit_of_mem_zeros hc
  simp only [FloatLayout.positional]
  split
  · refine ⟨digits.toList ++ (FloatLayout.zeros (point - digits.length).toNat).toList, ['0'], ?_,
      List.forall_mem_append.mpr ⟨hdigits, hzeros _⟩, List.forall_mem_singleton.mpr (by decide)⟩
    rw [String.toList_append, String.toList_append]
    rfl
  split
  · refine ⟨digits.toList.take point.toNat, digits.toList.drop point.toNat, ?_,
      fun c hc => hdigits c (List.mem_of_mem_take hc),
      fun c hc => hdigits c (List.mem_of_mem_drop hc)⟩
    simp only [String.toList_append, String.toList_ofList, List.append_assoc]
    rfl
  · refine ⟨['0'], (FloatLayout.zeros (-point).toNat).toList ++ digits.toList, ?_,
      List.forall_mem_singleton.mpr (by decide), List.forall_mem_append.mpr ⟨hzeros _, hdigits⟩⟩
    rw [String.toList_append, String.toList_append, List.append_assoc]
    rfl

theorem isFloatText_write (x : Float) : IsFloatText (FloatLayout.pointed.write x).toList := by
  have hsign (negative : Bool) : (if negative then "-" else "").toList =
      if negative then ['-'] else [] := by
    cases negative <;> rfl
  rw [FloatLayout.write]
  cases FloatParts.of x with
  | nan => exact .nan
  | infinite negative =>
    rw [String.toList_append, hsign]
    exact .infinite negative
  | finite negative size =>
    rw [String.toList_append, hsign]
    refine .finite negative (isPointed_positional (fun c hc => ?_) _)
    rw [Nat.toString_eq_repr, Nat.toList_repr] at hc
    exact Nat.isDigit_of_mem_toDigits (by decide) (by decide) hc

theorem IsFloatText.scalarChars {cs : List Char} (h : IsFloatText cs) :
    ∀ c ∈ cs, isScalarChar c = true := by
  have hsign (negative : Bool) {body : List Char} (hbody : ∀ c ∈ body, isScalarChar c = true) :
      ∀ c ∈ (if negative then ['-'] else []) ++ body, isScalarChar c = true := by
    cases negative with
    | false => exact hbody
    | true => exact List.forall_mem_cons.mpr ⟨by decide, hbody⟩
  cases h with
  | nan => exact List.all_eq_true.mp (by decide)
  | infinite negative => exact hsign negative (List.all_eq_true.mp (by decide))
  | finite negative h =>
    refine hsign negative fun c hc => ?_
    rcases h.digit hc with hdigit | rfl
    · exact isScalarChar_of_isDigit hdigit
    · decide

/-- **A number with a point is read as what its text stands for.** -/
theorem IsFloatText.scalar? {cs : List Char} (h : IsFloatText cs) :
    scalar? cs = (float? cs).map .float := by
  cases h with
  | nan => rfl
  | infinite negative => cases negative <;> rfl
  | @finite negative body h =>
    have hnot (c : Char) (hdigit : c.isDigit = false) (hc : c ≠ '.') : c ∉ body :=
      fun hmem => (h.digit hmem).elim (fun h => Bool.false_ne_true (hdigit.symm.trans h)) hc
    have hsigned (c : Char) (hdigit : c.isDigit = false) (hc : c ≠ '.') (hminus : c ≠ '-') :
        c ∉ (if negative then ['-'] else []) ++ body := by
      cases negative with
      | false => exact hnot c hdigit hc
      | true => exact List.not_mem_cons_of_ne_of_not_mem hminus (hnot c hdigit hc)
    have hhead (c : Char) (hdigit : c.isDigit = false) (hc : c ≠ '.') : body.head? ≠ some c :=
      fun heq => hnot c hdigit hc (List.mem_of_mem_head? heq)
    have hsplit : (splitSign ((if negative then ['-'] else []) ++ body)).2 = body := by
      cases negative with
      | false =>
        rw [if_neg Bool.false_ne_true, List.nil_append,
          splitSign_of_not (hhead '-' (by decide) (by decide)) (hhead '+' (by decide) (by decide))]
      | true => rfl
    have hdash : '-' ∉ ((if negative then ['-'] else []) ++ body).drop 1 := by
      cases negative with
      | false => exact fun hmem => hnot '-' (by decide) (by decide) (List.mem_of_mem_drop hmem)
      | true => exact hnot '-' (by decide) (by decide)
    -- the point is no digit
    have hgroups : digitGroups? Char.isDigit body = none := by
      rw [← Option.not_isSome_iff_eq_none]
      intro hsome
      exact absurd (mem_of_digitGroups? hsome '.' h.point) (by decide)
    have hwhole : wholeDigits? body = none := by
      rw [wholeDigits?, hgroups]
    rw [scalar?_of_number hdash (hsigned ':' (by decide) (by decide) (by decide))
        (hsigned 'e' (by decide) (by decide) (by decide)),
      integer?_of_not_letter (hsigned 'x' (by decide) (by decide) (by decide))
        (hsigned 'o' (by decide) (by decide) (by decide))
        (hsigned 'b' (by decide) (by decide) (by decide)),
      hsplit, hwhole]
    rfl

end Testsmith.Toml
