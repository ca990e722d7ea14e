/-
# Written texts read back

Between its quotes a text is spelled character by character (`Spells`): as itself, by an escape, or,
in a form of several lines, by a line feed or one of at most two quotes in a row. Each form that
`write` chooses spells the text in this way, and both readers take a spelling back to its text, up
to the closing quotes. Quotes at the end of a text in several lines run into the closing ones: there
the reader takes the first three for these and counts up to two further ones to the text.

Key definitions: `Toml.Spells`.
Key theorems: `Toml.spells_of`, `Toml.readLine_spells`, `Toml.readLines_spells`,
`Toml.readText_write`.
-/
import Testsmith.Toml.Text
import Mathlib.Data.List.Basic

namespace Testsmith.Toml

/-- How a text stands between the quotes of a form, after `run` quotes in a row. -/
inductive Spells (f : TextForm) : (run : Nat) → (text spelled : List Char) → Prop
  | nil (run : Nat) : Spells f run [] []
  | quote {run : Nat} {cs body : List Char} : f.multiline = true → run < 2 →
    Spells f (run + 1) cs body → Spells f run (f.quote :: cs) (f.quote :: body)
  | newline {run : Nat} {cs body : List Char} : f.multiline = true →
    Spells f 0 cs body → Spells f run ('\n' :: cs) ('\n' :: body)
  | plain {run : Nat} {c : Char} {cs body : List Char} : isPlain c = true → c ≠ f.quote →
    (c = '\\' → f.escapes = false) → Spells f 0 cs body → Spells f run (c :: cs) (c :: body)
  | escape {run : Nat} {c : Char} {e cs body : List Char} : f.escapes = true →
    (∀ rest, readEscape (e ++ rest) = some (c, rest)) →
    Spells f 0 cs body → Spells f run (c :: cs) ('\\' :: (e ++ body))

/-! ### What is written -/

theorem isPlain_of_not_control {c : Char} (h : isControl c = false) (hc : c ≠ '\n') :
    isPlain c = true := by
  rw [isControl, Bool.or_eq_false_iff, beq_eq_false_iff_ne] at h
  by_cases htab : c = '\t'
  · rw [htab]
    rfl
  have hlow : ¬c < ' ' := by
    intro hlow
    have hleft := h.1
    rw [decide_eq_true hlow, bne_iff_ne.mpr htab, bne_iff_ne.mpr hc] at hleft
    cases hleft
  rw [isPlain, bne_iff_ne.mpr h.2, decide_eq_true (Char.not_lt.mp hlow)]
  exact Bool.or_true _

theorem hexValue?_upperHexDigit (n : Nat) :
    Text.hexValue? (Text.upperHexDigit n) = some (n % 16) := by
  have h (k : Nat) (hk : k < 16) :
      Text.hexValue? (("0123456789ABCDEF".toList[k]?).getD '0') = some k := by
    decide +revert
  exact h (n % 16) (Nat.mod_lt n (by decide))

theorem readHex_fourDigits {n : Nat} (h : n < 65536) (rest : List Char) :
    readHex 4 0 (fourDigits n ++ rest) = some (n, rest) := by
  simp only [fourDigits, List.cons_append, List.nil_append, readHex, hexValue?_upperHexDigit,
    Option.bind_some, Option.some.injEq, Prod.mk.injEq, and_true]
  omega

theorem toNat_lt_of_isControl {c : Char} (h : isControl c = true) : c.toNat < 128 := by
  rw [isControl, Bool.or_eq_true, Bool.and_eq_true, Bool.and_eq_true, decide_eq_true_eq,
    beq_iff_eq] at h
  rcases h with ⟨⟨hlow, -⟩, -⟩ | rfl
  · exact Nat.lt_trans (show c.toNat < ' '.toNat from hlow) (by decide)
  · decide

theorem readEscape_fourDigits {c : Char} (h : isControl c = true) (rest : List Char) :
    readEscape ('u' :: fourDigits c.toNat ++ rest) = some (c, rest) := by
  have hlow := toNat_lt_of_isControl h
  have hvalid : c.toNat.isValidChar := Or.inl (by omega)
  rw [List.cons_append, readEscape, readScalar, readHex_fourDigits (by omega), Option.bind_some]
  simp only [if_pos hvalid, Char.ofNat_toNat]

/-- A character that is written with an escape is not a quote. -/
theorem Spells.escapeChar {m : Bool} {run : Nat} {c : Char} {cs body : List Char} (hquote : c ≠ '"')
    (hc : c ≠ '\n') (h : Spells ⟨true, m⟩ 0 cs body) :
    Spells ⟨true, m⟩ run (c :: cs) (escapeChar c ++ body) := by
  have escape (e : List Char) (he : ∀ rest, readEscape (e ++ rest) = some (c, rest)) :
      Spells ⟨true, m⟩ run (c :: cs) ('\\' :: e ++ body) := .escape rfl he h
  rw [Toml.escapeChar]
  split_ifs with h1 h2 h3 h4 h5 h6
  · exact escape ['b'] fun rest => by rw [h1]; rfl
  · exact escape ['t'] fun rest => by rw [h2]; rfl
  · exact escape ['f'] fun rest => by rw [h3]; rfl
  · exact escape ['r'] fun rest => by rw [h4]; rfl
  · exact escape ['\\'] fun rest => by rw [h5]; rfl
  · exact escape ('u' :: fourDigits c.toNat) (readEscape_fourDigits h6)
  · exact .plain (isPlain_of_not_control (by simpa using h6) hc) hquote
      (fun hback => absurd hback h5) h

/-- **Between double quotes every text can be spelled.** -/
theorem spells_escaped (m : Bool) (run : Nat) (cs : List Char) :
    Spells ⟨true, m⟩ run cs (escaped m run cs) := by
  fun_induction escaped m run cs with
  | case1 run => exact .nil run
  | case2 run cs hfew ih =>
    rw [Bool.and_eq_true, decide_eq_true_eq] at hfew
    exact .quote hfew.1 hfew.2 ih
  | case3 run cs _ ih => exact .escape (e := ['"']) rfl (fun _ => rfl) ih
  | case4 run cs ih =>
    cases m with
    | false => exact .escape (e := ['n']) rfl (fun _ => rfl) ih
    | true => exact .newline rfl ih
  | case5 run c cs hquote hc ih => exact .escapeChar hquote hc ih

theorem le_longestRun (q : Char) : ∀ (run : Nat) (cs : List Char), run ≤ longestRun q run cs
  | _, [] => Nat.le_refl _
  | run, c :: cs => by
    rw [longestRun]
    split
    · exact Nat.le_trans (Nat.le_succ run) (le_longestRun q (run + 1) cs)
    · exact Nat.le_max_left _ _

/-- A text that fits between single quotes stands there as it is. -/
theorem spells_self {m : Bool} : ∀ {run : Nat} {cs : List Char}, (∀ c ∈ cs, isControl c = false) →
    (∀ c ∈ cs, c = '\n' → m = true) → (∀ c ∈ cs, c = '\'' → m = true) →
    (m = true → longestRun '\'' run cs ≤ 2) → Spells ⟨false, m⟩ run cs cs
  | run, [], _, _, _, _ => .nil run
  | run, c :: cs, hcontrol, hlines, hquotes, hrun => by
    rw [List.forall_mem_cons] at hcontrol hlines hquotes
    by_cases hquote : c = '\''
    · have hm := hquotes.1 hquote
      have hfew := hrun hm
      rw [longestRun, if_pos hquote] at hfew
      have hle := le_longestRun '\'' (run + 1) cs
      rw [hquote]
      exact .quote hm (by omega) (spells_self hcontrol.2 hlines.2 hquotes.2 fun _ => hfew)
    · have hrest : Spells ⟨false, m⟩ 0 cs cs := by
        refine spells_self hcontrol.2 hlines.2 hquotes.2 fun hm => ?_
        have hfew := hrun hm
        rw [longestRun, if_neg hquote] at hfew
        exact Nat.le_trans (Nat.le_max_right _ _) hfew
      by_cases hc : c = '\n'
      · have hm := hlines.1 hc
        rw [hc]
        exact .newline hm hrest
      · exact .plain (isPlain_of_not_control hcontrol.1 hc) hquote (fun _ => rfl) hrest

theorem TextForm.fits_or_escapes (cs : List Char) :
    (TextForm.of cs).fits cs = true ∨ (TextForm.of cs).escapes = true := by
  rw [TextForm.of]
  cases hfind : List.find? (fun f => TextForm.fits f cs)
      [⟨true, false⟩, ⟨false, false⟩, ⟨true, true⟩, ⟨false, true⟩] with
  | none => exact Or.inr rfl
  | some f => exact Or.inl (List.find?_some (p := fun f => TextForm.fits f cs) hfind)

/-- **Each text is spelled between the quotes of its form.** -/
theorem spells_of (cs : List Char) : Spells (TextForm.of cs) 0 cs
    (if (TextForm.of cs).escapes then escaped (TextForm.of cs).multiline 0 cs else cs) := by
  have hform := TextForm.fits_or_escapes cs
  generalize TextForm.of cs = f at hform ⊢
  obtain ⟨escapes, m⟩ := f
  cases escapes with
  | true => exact spells_escaped m 0 cs
  | false =>
    have hfits := hform.resolve_right Bool.false_ne_true
    rw [TextForm.fits, Bool.and_eq_true, Bool.and_eq_true, Bool.and_eq_true, Bool.not_eq_true',
      List.any_eq_false] at hfits
    obtain ⟨⟨⟨hcontrol, hlines⟩, -⟩, hquotes⟩ := hfits
    refine spells_self (fun c hc => by simpa using hcontrol c hc) (fun c hc heq => ?_)
      (fun c hc heq => ?_) fun hm => ?_
    · by_contra hm
      rw [Bool.eq_false_iff.mpr hm] at hlines
      rw [heq] at hc
      simp [hc] at hlines
    · by_contra hm
      rw [if_neg hm] at hquotes
      rw [heq] at hc
      simp [TextForm.quote, hc] at hquotes
    · rw [if_pos hm] at hquotes
      exact of_decide_eq_true hquotes

/-! ### Reading -/

theorem quote_eq (f : TextForm) : f.quote = '"' ∨ f.quote = '\'' := by
  rw [TextForm.quote]
  split
  · exact Or.inl rfl
  · exact Or.inr rfl

theorem backslash_ne_quote (f : TextForm) : '\\' ≠ f.quote := by
  rcases quote_eq f with h | h <;> rw [h] <;> decide

theorem newline_ne_quote (f : TextForm) : '\n' ≠ f.quote := by
  rcases quote_eq f with h | h <;> rw [h] <;> decide

theorem isPlain_quote (f : TextForm) : isPlain f.quote = true := by
  rcases quote_eq f with h | h <;> rw [h] <;> decide

theorem no_escape {f : TextForm} {c : Char} (h : c = '\\' → f.escapes = false) :
    ¬(decide (c = '\\') && f.escapes) = true := by
  rw [Bool.and_eq_true, decide_eq_true_eq]
  rintro ⟨hc, hescapes⟩
  exact Bool.false_ne_true ((h hc).symm.trans hescapes)

/-- **A spelling in one line is read as its text.** -/
theorem readLine_spells {f : TextForm} (hm : f.multiline = false) {run : Nat} {cs body : List Char}
    (h : Spells f run cs body) (rest : List Char) : ∀ {bound : Nat}, body.length < bound →
      readLine f bound (body ++ f.quote :: rest) = some (cs, rest) := by
  induction h with
  | nil run =>
    rintro (- | bound) hbound
    · exact absurd hbound (Nat.not_lt_zero _)
    · rw [List.nil_append, readLine, if_pos rfl]
  | quote hlines => exact absurd (hm.symm.trans hlines) Bool.false_ne_true
  | newline hlines => exact absurd (hm.symm.trans hlines) Bool.false_ne_true
  | plain hplain hquote hback _ ih =>
    rintro (- | bound) hbound
    · exact absurd hbound (Nat.not_lt_zero _)
    · rw [List.cons_append, readLine, if_neg hquote, if_neg (no_escape hback), if_pos hplain,
        ih (Nat.lt_of_succ_lt_succ hbound)]
      rfl
  | escape hescapes hread _ ih =>
    rintro (- | bound) hbound
    · exact absurd hbound (Nat.not_lt_zero _)
    · rw [List.length_cons, List.length_append] at hbound
      rw [List.cons_append, List.append_assoc, readLine, if_neg (backslash_ne_quote f),
        if_pos (by rw [hescapes]; rfl), hread]
      refine Eq.trans (b := (readLine f bound _).bind _) rfl ?_
      rw [ih (by omega)]
      rfl

/-- What follows a backslash is no line ending if it is an escape. -/
theorem afterEscapedNewline?_of_readEscape {cs : List Char} {read : Char × List Char}
    (h : readEscape cs = some read) : afterEscapedNewline? cs = none := by
  rw [readEscape.eq_def] at h
  split at h
  case h_10 => cases h
  all_goals rfl

theorem closing_quotes {q : Char} {n : Nat} (hn : n ≤ 2) {rest : List Char}
    (hrest : rest.head? ≠ some q) :
    closing q (List.replicate n q ++ rest) = (List.replicate n q, rest) := by
  have hnone : rest.takeWhile (· == q) = [] := by
    cases rest with
    | nil => rfl
    | cons c rest => exact List.takeWhile_cons_of_neg (by simpa using hrest)
  have hrun : (List.replicate n q ++ rest).takeWhile (· == q) = List.replicate n q := by
    rw [List.takeWhile_append_of_pos (by simp), hnone, List.append_nil]
  simp only [closing, hrun, List.length_replicate, Nat.min_eq_right hn, Prod.mk.injEq, true_and]
  exact List.drop_left' (List.length_replicate ..)

/-- Three quotes end a text, together with up to two quotes before them. -/
theorem readLines_closing (f : TextForm) {n : Nat} (hn : n ≤ 2) (bound : Nat) {rest : List Char}
    (hrest : rest.head? ≠ some f.quote) :
    readLines f (bound + 1) (List.replicate n f.quote ++ (List.replicate 3 f.quote ++ rest)) =
      some (List.replicate n f.quote, rest) := by
  have hfirst : List.replicate n f.quote ++ (List.replicate 3 f.quote ++ rest) =
      f.quote :: f.quote :: f.quote :: (List.replicate n f.quote ++ rest) := by
    rw [← List.append_assoc, List.replicate_append_replicate, Nat.add_comm,
      ← List.replicate_append_replicate, List.append_assoc]
    rfl
  rw [hfirst, readLines, if_pos (by simp), List.drop_succ_cons, List.drop_succ_cons, List.drop_zero,
    closing_quotes hn hrest]

theorem Spells.shape {f : TextForm} {run : Nat} {cs body : List Char} (h : Spells f run cs body) :
    (cs = [] ∧ body = []) ∨
    (run < 2 ∧ ∃ cs' body', cs = f.quote :: cs' ∧ body = f.quote :: body' ∧
      Spells f (run + 1) cs' body') ∨
    ∃ c body', body = c :: body' ∧ c ≠ f.quote := by
  cases h with
  | nil => exact Or.inl ⟨rfl, rfl⟩
  | quote _ hrun h => exact Or.inr (Or.inl ⟨hrun, _, _, rfl, rfl, h⟩)
  | newline => exact Or.inr (Or.inr ⟨_, _, rfl, newline_ne_quote f⟩)
  | plain _ hquote => exact Or.inr (Or.inr ⟨_, _, rfl, hquote⟩)
  | escape => exact Or.inr (Or.inr ⟨_, _, rfl, backslash_ne_quote f⟩)

/-- Where two quotes follow a quote, nothing but quotes is left of the text. -/
theorem Spells.quotes {f : TextForm} {run : Nat} {cs body more : List Char}
    (h : Spells f (run + 1) cs body) (hrun : run < 2)
    (htwo : (body ++ more).take 2 = [f.quote, f.quote]) :
    ∃ n, run + 1 + n ≤ 2 ∧ cs = List.replicate n f.quote ∧ body = List.replicate n f.quote := by
  rcases h.shape with ⟨rfl, rfl⟩ | ⟨hfew, cs, body, rfl, rfl, hmore⟩ | ⟨c, body, rfl, hc⟩
  · exact ⟨0, by omega, rfl, rfl⟩
  · rcases hmore.shape with ⟨rfl, rfl⟩ | ⟨hfewer, -⟩ | ⟨c, body, rfl, hc⟩
    · exact ⟨1, by omega, rfl, rfl⟩
    · omega
    · exact absurd (List.cons.inj (List.cons.inj htwo).2).1 hc
  · exact absurd (List.cons.inj htwo).1 hc

theorem afterNewline?_of_isPlain {c : Char} (h : isPlain c = true) (cs : List Char) :
    afterNewline? (c :: cs) = none := by
  rw [afterNewline?.eq_def]
  split
  case h_1 heq =>
    rw [(List.cons.inj heq).1] at h
    cases h
  case h_2 heq =>
    rw [(List.cons.inj heq).1] at h
    cases h
  case h_3 => rfl

/-- A character that stands for itself is read as itself. -/
theorem readLines_plain {f : TextForm} {c : Char} {cs : List Char} (hplain : isPlain c = true)
    (hback : c = '\\' → f.escapes = false)
    (hquote : ¬(decide (c = f.quote) && cs.take 2 == [f.quote, f.quote]) = true) (bound : Nat) :
    readLines f (bound + 1) (c :: cs) =
      (readLines f bound cs).map fun (text, cs) => (c :: text, cs) := by
  rw [readLines, if_neg hquote, if_neg (no_escape hback),
    afterNewline?_of_isPlain hplain]
  simp only [hplain, if_true]
  cases readLines f bound cs <;> rfl

/-- **A spelling in several lines is read as its text.** -/
theorem readLines_spells {f : TextForm} {run : Nat} {cs body : List Char}
    (h : Spells f run cs body) {rest : List Char} (hrest : rest.head? ≠ some f.quote) :
    ∀ {bound : Nat}, body.length < bound →
      readLines f bound (body ++ (List.replicate 3 f.quote ++ rest)) = some (cs, rest) := by
  induction h with
  | nil run =>
    rintro (- | bound) hbound
    · exact absurd hbound (Nat.not_lt_zero _)
    · exact readLines_closing f (Nat.zero_le 2) bound hrest
  | @quote run cs body _ hrun h ih =>
    rintro (- | bound) hbound
    · exact absurd hbound (Nat.not_lt_zero _)
    by_cases htwo : (body ++ (List.replicate 3 f.quote ++ rest)).take 2 = [f.quote, f.quote]
    · obtain ⟨n, hn, rfl, rfl⟩ := h.quotes hrun htwo
      exact readLines_closing f (n := n + 1) (by omega) bound hrest
    · rw [List.cons_append, readLines_plain (isPlain_quote f)
        (fun hback => absurd hback.symm (backslash_ne_quote f)) ?_,
        ih (Nat.lt_of_succ_lt_succ hbound), Option.map_some]
      rw [Bool.and_eq_true, beq_iff_eq]
      exact fun hboth => htwo hboth.2
  | newline _ _ ih =>
    rintro (- | bound) hbound
    · exact absurd hbound (Nat.not_lt_zero _)
    rw [List.cons_append, readLines, if_neg (by simp [newline_ne_quote f]), if_neg (by simp)]
    refine Eq.trans (b := (readLines f bound _).bind _) rfl ?_
    rw [ih (Nat.lt_of_succ_lt_succ hbound)]
    rfl
  | plain hplain hquote hback _ ih =>
    rintro (- | bound) hbound
    · exact absurd hbound (Nat.not_lt_zero _)
    rw [List.cons_append, readLines_plain hplain hback (by simp [hquote]),
      ih (Nat.lt_of_succ_lt_succ hbound)]
    rfl
  | escape hescapes hread _ ih =>
    rintro (- | bound) hbound
    · exact absurd hbound (Nat.not_lt_zero _)
    rw [List.length_cons, List.length_append] at hbound
    rw [List.cons_append, List.append_assoc, readLines, if_neg (by simp [backslash_ne_quote f]),
      if_pos (by rw [hescapes]; rfl), afterEscapedNewline?_of_readEscape (hread _), hread]
    refine Eq.trans (b := (readLines f bound _).bind _) rfl ?_
    rw [ih (by omega)]
    rfl

/-! ### A text and its quotes -/

/-- In one line, no quote stands first. -/
theorem Spells.head {f : TextForm} (hm : f.multiline = false) {run : Nat} {cs body : List Char}
    (h : Spells f run cs body) : body.head? ≠ some f.quote := by
  cases h with
  | nil => exact fun heq => absurd heq.symm (Option.some_ne_none _)
  | quote hlines => exact absurd (hm.symm.trans hlines) Bool.false_ne_true
  | newline hlines => exact absurd (hm.symm.trans hlines) Bool.false_ne_true
  | plain _ hquote => exact fun heq => hquote (Option.some.inj heq)
  | escape => exact fun heq => backslash_ne_quote f (Option.some.inj heq)

/-- The line feed before a text in several lines is left out, and nothing else. -/
theorem Spells.afterNewline? {f : TextForm} {run : Nat} {cs body : List Char}
    (h : Spells f run cs body) (rest : List Char) :
    let start := if cs.contains '\n' then ['\n'] else []
    (afterNewline? (start ++ (body ++ f.quote :: rest))).getD (start ++ (body ++ f.quote :: rest)) =
      body ++ f.quote :: rest := by
  intro start
  by_cases hcs : cs.contains '\n' = true
  · rw [show start = ['\n'] from if_pos hcs]
    rfl
  · rw [show start = [] from if_neg hcs, List.nil_append]
    have hnone : Toml.afterNewline? (body ++ f.quote :: rest) = none := by
      cases h with
      | nil => exact afterNewline?_of_isPlain (isPlain_quote f) _
      | quote => exact afterNewline?_of_isPlain (isPlain_quote f) _
      | newline => exact absurd (by simp) hcs
      | plain hplain => exact afterNewline?_of_isPlain hplain _
      | escape => exact afterNewline?_of_isPlain (by decide) _
    rw [hnone, Option.getD_none]

theorem readQuoted_single {escapes : Bool} {cs body rest : List Char}
    (h : Spells ⟨escapes, false⟩ 0 cs body)
    (hrest : rest.head? ≠ some (TextForm.quote ⟨escapes, false⟩)) :
    readQuoted escapes (TextForm.quote ⟨escapes, false⟩ ::
      (body ++ TextForm.quote ⟨escapes, false⟩ :: rest)) = some (cs, rest) := by
  have hfence (q : Char) (hbody : body.head? ≠ some q) (hrest : rest.head? ≠ some q) :
      ¬((q :: (body ++ q :: rest)).take 3 == List.replicate 3 q) = true := by
    rw [beq_iff_eq]
    intro heq
    cases body with
    | nil =>
      have htail := (List.cons.inj (List.cons.inj heq).2).2
      cases rest with
      | nil => cases htail
      | cons c rest => exact hrest (congrArg some (List.cons.inj htail).1)
    | cons c body => exact hbody (congrArg some (List.cons.inj (List.cons.inj heq).2).1)
  refine (if_neg (hfence _ (h.head rfl) hrest)).trans ((if_pos rfl).trans ?_)
  exact readLine_spells rfl h rest (by rw [List.length_append]; omega)

theorem readQuoted_multi {escapes : Bool} {cs body rest : List Char}
    (h : Spells ⟨escapes, true⟩ 0 cs body)
    (hrest : rest.head? ≠ some (TextForm.quote ⟨escapes, true⟩)) :
    readQuoted escapes (TextForm.fence ⟨escapes, true⟩ ++
      ((if cs.contains '\n' then ['\n'] else []) ++
        (body ++ (TextForm.fence ⟨escapes, true⟩ ++ rest)))) = some (cs, rest) := by
  have hlength : (TextForm.fence ⟨escapes, true⟩).length = 3 := List.length_replicate ..
  have hfirst := h.afterNewline? (List.replicate 2 (TextForm.quote ⟨escapes, true⟩) ++ rest)
  rw [readQuoted]
  simp only [List.take_left' hlength, List.drop_left' hlength, beq_self_eq_true, if_true]
  refine (congrArg _ hfirst).trans (readLines_spells h hrest ?_)
  simp only [List.length_append]
  omega

/-- **A written text reads back**, up to what follows it. -/
theorem readText_write (cs : List Char) {rest : List Char} (hrest : ∀ f : TextForm,
    rest.head? ≠ some f.quote) : readText (write cs ++ rest) = some (cs, rest) := by
  have hspells := spells_of cs
  rw [write]
  generalize TextForm.of cs = f at hspells ⊢
  obtain ⟨escapes, multiline⟩ := f
  have hread (more : List Char) :
      readText (TextForm.fence ⟨escapes, multiline⟩ ++ more) =
        readQuoted escapes (TextForm.fence ⟨escapes, multiline⟩ ++ more) := by
    cases escapes <;> cases multiline <;> rfl
  simp only [List.append_assoc, hread]
  cases multiline with
  | false =>
    rw [Bool.and_false]
    exact readQuoted_single hspells (hrest _)
  | true =>
    rw [Bool.and_true]
    exact readQuoted_multi hspells (hrest _)

end Testsmith.Toml
