/-
# Stretches of a text and their lines

A stretch of a text lies on some of its lines: the first of them may begin before the stretch, and
the last one may end after it. The lines of the text are those above, those that the stretch lies on
(`linesOn`) and those below (`linesList_stretch`). What is put together again from lines has line
feeds alone between them (`terminated_linesList`), so a stretch all of whose lines are kept is kept
up to that (`infix_terminated`).

Key definitions: `linesAbove`, `lineStart`, `lineEnd`, `linesBelow`, `linesOn`, `lineFeeds`,
`Alone`.
Key theorems: `linesList_stretch`, `terminated_linesList`, `infix_terminated`, `linesOn_alone`.
-/
import Mathlib.Data.List.DropRight
import Testsmith.Proofs.Text.Lines

namespace Testsmith.Text

/-- The lines above the one that the text breaks off in. -/
def linesAbove (before : List Char) : List Char := before.rdropWhile (· != '\n')

/-- The begin of the line that the text breaks off in. -/
def lineStart (before : List Char) : List Char := before.rtakeWhile (· != '\n')

/-- The rest of the line that the text begins in, with its line feed. -/
def lineEnd (after : List Char) : List Char :=
  after.takeWhile (· != '\n') ++ (after.dropWhile (· != '\n')).take 1

/-- The lines below the one that the text begins in. -/
def linesBelow (after : List Char) : List Char := (after.dropWhile (· != '\n')).drop 1

/-- The lines that a stretch lies on, between what stands before it and after it. -/
def linesOn (before stretch after : List Char) : List (List Char) :=
  linesList (lineStart before ++ stretch ++ lineEnd after)

/-- The text without the carriage returns that stand right before line feeds. -/
def lineFeeds : List Char → List Char
  | '\r' :: '\n' :: cs => '\n' :: lineFeeds cs
  | c :: cs => c :: lineFeeds cs
  | [] => []

/-! ### Above, on and below -/

/-- The text is empty or ends with a line feed. -/
def EndsLine (cs : List Char) : Prop := cs = [] ∨ ∃ init, cs = init ++ ['\n']

theorem linesList_concat_newline (cs ds : List Char) :
    linesList (cs ++ '\n' :: ds) = linesList (cs ++ ['\n']) ++ linesList ds := by
  suffices h : ∀ cs cur, linesFrom cur (cs ++ '\n' :: ds) =
      linesFrom cur (cs ++ ['\n']) ++ linesFrom [] ds from h cs []
  intro cs
  induction cs with
  | nil =>
    intro cur
    rw [List.nil_append, List.nil_append, linesFrom_newline, linesFrom_newline, linesFrom_nil]
    rfl
  | cons c cs ih =>
    intro cur
    rw [List.cons_append, List.cons_append]
    by_cases hc : c = '\n'
    · rw [hc, linesFrom_newline, linesFrom_newline, ih, List.cons_append]
    · rw [linesFrom_cons _ _ hc, linesFrom_cons _ _ hc, ih]

/-- The lines of two texts, the first of which ends its last line. -/
theorem linesList_append_of_endsLine {cs : List Char} (h : EndsLine cs) (ds : List Char) :
    linesList (cs ++ ds) = linesList cs ++ linesList ds := by
  rcases h with rfl | ⟨init, rfl⟩
  · rfl
  · rw [List.append_assoc, List.singleton_append, linesList_concat_newline]

theorem linesAbove_append_lineStart (before : List Char) :
    linesAbove before ++ lineStart before = before := List.rdropWhile_append_rtakeWhile

theorem lineEnd_append_linesBelow (after : List Char) : lineEnd after ++ linesBelow after = after := by
  rw [lineEnd, linesBelow, List.append_assoc, List.take_append_drop, List.takeWhile_append_dropWhile]

theorem endsLine_linesAbove (before : List Char) : EndsLine (linesAbove before) := by
  rcases List.eq_nil_or_concat (linesAbove before) with h | ⟨init, c, h⟩
  · exact Or.inl h
  · rw [List.concat_eq_append] at h
    have hne : linesAbove before ≠ [] := by simp [h]
    have hlast : ¬((linesAbove before).getLast hne != '\n') = true :=
      List.rdropWhile_last_not _ before hne
    simp only [h, List.getLast_concat] at hlast
    obtain rfl : c = '\n' := by simpa using hlast
    exact Or.inr ⟨init, h⟩

theorem not_newline_lineStart (before : List Char) : '\n' ∉ lineStart before :=
  fun h => absurd (List.mem_rtakeWhile_imp h) (by decide)

/-- The rest of a line is without a line feed and the last of the text, or ends with it. -/
theorem lineEnd_cases (after : List Char) : ∃ tail, '\n' ∉ tail ∧
    (lineEnd after = tail ∧ linesBelow after = [] ∨ lineEnd after = tail ++ ['\n']) := by
  refine ⟨after.takeWhile (· != '\n'), fun h => absurd (List.mem_takeWhile_imp h) (by decide), ?_⟩
  rw [lineEnd, linesBelow]
  cases hrest : after.dropWhile (· != '\n') with
  | nil => exact Or.inl ⟨List.append_nil _, rfl⟩
  | cons c rest =>
    have hc := List.head?_dropWhile_not (· != '\n') after
    rw [hrest] at hc
    obtain rfl : c = '\n' := by simpa using hc
    exact Or.inr rfl

/-- **The lines of a text are those above a stretch, those it lies on, and those below.** -/
theorem linesList_stretch (before stretch after : List Char) :
    linesList (before ++ stretch ++ after) = linesList (linesAbove before) ++
      (linesOn before stretch after ++ linesList (linesBelow after)) := by
  have hcut : before ++ stretch ++ after = linesAbove before ++
      ((lineStart before ++ stretch ++ lineEnd after) ++ linesBelow after) := by
    conv_lhs => rw [← linesAbove_append_lineStart before, ← lineEnd_append_linesBelow after]
    simp only [List.append_assoc]
  rw [hcut, linesList_append_of_endsLine (endsLine_linesAbove before)]
  congr 1
  obtain ⟨tail, -, ⟨-, hbelow⟩ | hend⟩ := lineEnd_cases after
  · rw [hbelow, List.append_nil]
    exact (List.append_nil _).symm
  · refine linesList_append_of_endsLine (Or.inr ⟨lineStart before ++ stretch ++ tail, ?_⟩) _
    rw [hend, List.append_assoc _ tail]

/-! ### Line feeds alone -/

theorem lineFeeds_cons {c : Char} (cs : List Char) (h : c ≠ '\r') :
    lineFeeds (c :: cs) = c :: lineFeeds cs := by
  rw [lineFeeds.eq_def]
  split
  · rename_i heq
    exact absurd (List.cons.inj heq).1 h
  · rename_i heq
    obtain ⟨rfl, rfl⟩ := List.cons.inj heq
    rfl
  · contradiction

theorem lineFeeds_cons_of_not_newline (c : Char) {cs : List Char} (h : cs.head? ≠ some '\n') :
    lineFeeds (c :: cs) = c :: lineFeeds cs := by
  rw [lineFeeds.eq_def]
  split
  · rename_i heq
    rw [(List.cons.inj heq).2] at h
    exact absurd rfl h
  · rename_i heq
    obtain ⟨rfl, rfl⟩ := List.cons.inj heq
    rfl
  · contradiction

/-- Two texts that are not cut inside the end of a line. -/
theorem lineFeeds_append : ∀ {cs : List Char} (ds : List Char),
    cs.getLast? ≠ some '\r' ∨ ds.head? ≠ some '\n' →
      lineFeeds (cs ++ ds) = lineFeeds cs ++ lineFeeds ds
  | [], ds, _ => rfl
  | [c], ds, h => by
    rw [List.singleton_append]
    rcases h with h | h
    · rw [lineFeeds_cons ds (by simpa using h), lineFeeds_cons [] (by simpa using h)]
      rfl
    · rw [lineFeeds_cons_of_not_newline c h, lineFeeds_cons_of_not_newline c (by simp)]
      rfl
  | c :: d :: cs, ds, h => by
    have hrest : (d :: cs).getLast? ≠ some '\r' ∨ ds.head? ≠ some '\n' := by
      rwa [List.getLast?_cons_cons] at h
    have ih : lineFeeds (d :: cs ++ ds) = lineFeeds (d :: cs) ++ lineFeeds ds :=
      lineFeeds_append ds hrest
    by_cases hc : c = '\r' ∧ d = '\n'
    · obtain ⟨rfl, rfl⟩ := hc
      have htail : lineFeeds (cs ++ ds) = lineFeeds cs ++ lineFeeds ds := by
        rw [List.cons_append, lineFeeds_cons _ (by decide), lineFeeds_cons _ (by decide),
          List.cons_append] at ih
        exact (List.cons.inj ih).2
      rw [List.cons_append, List.cons_append, lineFeeds, lineFeeds, htail, List.cons_append]
    · have hcons (rest : List Char) : lineFeeds (c :: d :: rest) = c :: lineFeeds (d :: rest) := by
        by_cases hcr : c = '\r'
        · exact lineFeeds_cons_of_not_newline c (by simpa using fun hd => hc ⟨hcr, hd⟩)
        · exact lineFeeds_cons _ hcr
      rw [List.cons_append, List.cons_append, hcons, hcons, ← List.cons_append, ih, List.cons_append]

theorem lineFeeds_of_not_newline : ∀ {l : List Char}, '\n' ∉ l → lineFeeds l = l
  | [], _ => rfl
  | c :: l, h => by
    rw [List.mem_cons, not_or] at h
    have hhead : l.head? ≠ some '\n' := fun hl => h.2 (List.mem_of_head? hl)
    rw [lineFeeds_cons_of_not_newline c hhead, lineFeeds_of_not_newline h.2]

/-- A line and the text after it. -/
theorem lineFeeds_line {l : List Char} (cs : List Char) (h : '\n' ∉ l) :
    lineFeeds (l ++ '\n' :: cs) = dropReturn l ++ '\n' :: lineFeeds cs := by
  by_cases hlast : l.getLast? = some '\r'
  · obtain ⟨init, rfl⟩ := List.getLast?_eq_some_iff.mp hlast
    have hinit : '\n' ∉ init := fun hm => h (List.mem_append_left _ hm)
    have hdrop : dropReturn (init ++ ['\r']) = init := by simp [dropReturn]
    rw [hdrop, List.append_assoc, List.singleton_append,
      lineFeeds_append _ (Or.inr (by simp)), lineFeeds_of_not_newline hinit, lineFeeds]
  · rw [lineFeeds_append _ (Or.inl hlast), lineFeeds_of_not_newline h, dropReturn_eq_self hlast,
      lineFeeds_cons _ (by decide)]

/-- **Lines put together again are the text with line feeds alone.** -/
theorem terminated_linesList (cs : List Char) :
    terminated (linesList cs) = lineFeeds cs ∨ terminated (linesList cs) = lineFeeds cs ++ ['\n'] := by
  suffices h : ∀ cs cur, '\n' ∉ cur → ∃ tail, (tail = [] ∨ tail = ['\n']) ∧
      terminated (linesFrom cur cs) = lineFeeds (cur.reverse ++ cs) ++ tail by
    obtain ⟨tail, rfl | rfl, h⟩ := h cs [] (by simp)
    · exact Or.inl (by rw [linesList, h, List.append_nil]; rfl)
    · exact Or.inr (by rw [linesList, h]; rfl)
  intro cs
  induction cs with
  | nil =>
    intro cur hcur
    have hrev : '\n' ∉ cur.reverse := fun h => hcur (List.mem_reverse.mp h)
    rw [linesFrom_nil, List.append_nil, lineFeeds_of_not_newline hrev]
    split
    · rename_i hnil
      exact ⟨[], Or.inl rfl, by rw [hnil]; rfl⟩
    · exact ⟨['\n'], Or.inr rfl, by simp [terminated]⟩
  | cons c cs ih =>
    intro cur hcur
    by_cases hc : c = '\n'
    · have hrev : '\n' ∉ cur.reverse := fun h => hcur (List.mem_reverse.mp h)
      obtain ⟨tail, htail, h⟩ := ih [] (by simp)
      refine ⟨tail, htail, ?_⟩
      rw [List.reverse_nil, List.nil_append] at h
      rw [hc, linesFrom_newline, lineFeeds_line _ hrev, List.append_assoc, List.cons_append, ← h]
      simp [terminated]
    · obtain ⟨tail, htail, h⟩ := ih (c :: cur) (by simp [Ne.symm hc, hcur])
      refine ⟨tail, htail, ?_⟩
      rw [linesFrom_cons _ _ hc, h, List.reverse_cons, List.append_assoc, List.singleton_append]

/-! ### Stretches that are kept -/

/-- Trimming at the start stops at a character that is no blank. -/
theorem trimStartList_append_solid {u : List Char} (hu : u ≠ [])
    (hfirst : ∀ c, u.head? = some c → isBlank c = false) (rest : List Char) : ∀ pre : List Char,
    ∃ pre', trimStartList (pre ++ (u ++ rest)) = pre' ++ (u ++ rest)
  | [] => by
    refine ⟨[], trimStartList_eq_self_iff.mpr fun c hc => hfirst c ?_⟩
    rwa [List.nil_append, List.head?_append_of_ne_nil _ hu] at hc
  | b :: pre => by
    cases hb : isBlank b with
    | true =>
      rw [List.cons_append, trimStartList_cons_blank _ hb]
      exact trimStartList_append_solid hu hfirst rest pre
    | false => exact ⟨b :: pre, by rw [List.cons_append, trimStartList_cons _ hb]⟩

/-- A stretch between characters that are no blanks is not trimmed away. -/
theorem infix_trimList_of_solid {u cs : List Char}
    (hfirst : ∀ c, u.head? = some c → isBlank c = false)
    (hlast : ∀ c, u.getLast? = some c → isBlank c = false) (h : u <:+: cs) : u <:+: trimList cs := by
  by_cases hu : u = []
  · rw [hu]
    exact List.nil_infix
  obtain ⟨pre, post, rfl⟩ := h
  obtain ⟨pre', hpre⟩ := trimStartList_append_solid hu hfirst post pre
  obtain ⟨post', hpost⟩ := trimStartList_append_solid (u := u.reverse) (by simpa using hu)
    (by simpa using hlast) pre'.reverse post.reverse
  have hend : trimEndList (pre' ++ (u ++ post)) =
      (post' ++ (u.reverse ++ pre'.reverse)).reverse := by
    rw [← hpost]
    simp only [trimEndList, trimStartList, List.reverse_append, List.append_assoc]
  refine ⟨pre', post'.reverse, ?_⟩
  rw [trimList, List.append_assoc pre, hpre, hend]
  simp

/-- **A stretch is part of its lines put together**, up to their ends and the blanks around it. -/
theorem infix_terminated (before stretch after : List Char) :
    lineFeeds (trimList stretch) <:+: terminated (linesOn before stretch after) := by
  by_cases hnil : trimList stretch = []
  · rw [hnil]
    exact List.nil_infix
  obtain ⟨pre, post, hcut⟩ := infix_trimList stretch
  have hfirst : (trimList stretch).head? ≠ some '\n' :=
    fun h => absurd (not_blank_of_head?_trimList h) (by decide)
  have hlast : (trimList stretch).getLast? ≠ some '\r' :=
    fun h => absurd (not_blank_of_getLast?_trimList h) (by decide)
  have hwhole : lineFeeds (trimList stretch) <:+:
      lineFeeds (lineStart before ++ stretch ++ lineEnd after) := by
    refine ⟨lineFeeds (lineStart before ++ pre), lineFeeds (post ++ lineEnd after), ?_⟩
    rw [List.append_assoc, ← lineFeeds_append _ (Or.inl hlast), ← lineFeeds_append _ (Or.inr ?_)]
    · conv_rhs => rw [← hcut]
      simp only [List.append_assoc]
    · rwa [List.head?_append_of_ne_nil _ hnil]
  rw [linesOn]
  rcases terminated_linesList (lineStart before ++ stretch ++ lineEnd after) with h | h
  · rwa [h]
  · rw [h]
    exact hwhole.trans (List.prefix_append _ _).isInfix

/-- What is kept with line feeds alone still has no blanks at its ends. -/
theorem infix_trimList_lineFeeds {stretch cs : List Char}
    (h : lineFeeds (trimList stretch) <:+: cs) : lineFeeds (trimList stretch) <:+: trimList cs := by
  refine infix_trimList_of_solid (fun c hc => ?_) (fun c hc => ?_) h
  · cases hs : trimList stretch with
    | nil =>
      rw [hs] at hc
      cases hc
    | cons d ds =>
      have hfirst : (trimList stretch).head? = some d := by rw [hs, List.head?_cons]
      have hd := not_blank_of_head?_trimList hfirst
      have hne : d ≠ '\r' := by
        rintro rfl
        exact absurd hd (by decide)
      rw [hs, lineFeeds_cons _ hne, List.head?_cons, Option.some.injEq] at hc
      rwa [← hc]
  · rcases List.eq_nil_or_concat (trimList stretch) with hs | ⟨init, d, hs⟩
    · rw [hs] at hc
      cases hc
    · rw [List.concat_eq_append] at hs
      have hlast : (trimList stretch).getLast? = some d := by rw [hs, List.getLast?_concat]
      have hd := not_blank_of_getLast?_trimList hlast
      have hne : ([d] : List Char).head? ≠ some '\n' := by
        intro h
        rw [List.head?_cons, Option.some.injEq] at h
        rw [h] at hd
        exact absurd hd (by decide)
      rw [hs, lineFeeds_append _ (Or.inr hne), lineFeeds_cons_of_not_newline d (by simp),
        lineFeeds, List.getLast?_concat, Option.some.injEq] at hc
      rwa [← hc]

/-! ### A stretch alone on its line -/

/-- Nothing but blanks stands on the line of the stretch, which is a single one. -/
def Alone (before stretch after : List Char) : Prop :=
  (∀ c ∈ lineStart before, isBlank c = true) ∧ '\n' ∉ stretch ∧
    ∀ c ∈ lineEnd after, isBlank c = true

instance (before stretch after : List Char) : Decidable (Alone before stretch after) :=
  inferInstanceAs (Decidable (_ ∧ _ ∧ _))

/-- The line of a stretch that stands alone is the stretch, but for the blanks around it. -/
theorem linesOn_alone {before stretch after : List Char} (h : Alone before stretch after)
    (hne : trimList stretch ≠ []) :
    ∃ line, linesOn before stretch after = [line] ∧ trimList line = trimList stretch := by
  obtain ⟨hstart, hone, hend⟩ := h
  obtain ⟨tail, htail, hcases⟩ := lineEnd_cases after
  have hblank : ∀ c ∈ tail, isBlank c = true := by
    intro c hc
    rcases hcases with ⟨he, -⟩ | he
    · exact hend c (he ▸ hc)
    · exact hend c (he ▸ List.mem_append_left _ hc)
  have hline : '\n' ∉ lineStart before ++ stretch ++ tail := by
    simp only [List.mem_append, not_or]
    exact ⟨⟨not_newline_lineStart before, hone⟩, htail⟩
  have htrim : trimList (lineStart before ++ stretch ++ tail) = trimList stretch := by
    rw [trimList_append_blanks _ hblank, trimList_blanks_append _ hstart]
  rcases hcases with ⟨he, -⟩ | he
  · refine ⟨_, ?_, htrim⟩
    have hsome : lineStart before ++ stretch ++ tail ≠ [] := by
      intro hnil
      rw [hnil] at htrim
      exact hne htrim.symm
    rw [linesOn, he, linesList, ← List.append_nil (lineStart before ++ stretch ++ tail),
      linesFrom_append _ _ _ hline, linesFrom_nil, List.append_nil, List.append_nil,
      if_neg (by rwa [List.reverse_eq_nil_iff]), List.reverse_reverse]
  · refine ⟨dropReturn (lineStart before ++ stretch ++ tail), ?_, ?_⟩
    · rw [linesOn, he, ← List.append_assoc _ tail, linesList_append _ hline]
      rfl
    · rw [← htrim, ← List.nil_append (dropReturn _), ← trimList_append_trimEndList,
        trimEndList_dropReturn, trimList_append_trimEndList, List.nil_append]

end Testsmith.Text
