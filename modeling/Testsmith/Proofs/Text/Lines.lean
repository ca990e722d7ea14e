/-
# Lines of a text

What the lines of a text are when it is put together from parts, and what becomes of them when a
blank is put before or after the text. A line that is followed by a line feed loses one carriage
return at its end (`dropReturn`); a text in which no line ends in more than one is the same as its
lines.

Key definitions: `dropReturn`, `terminated`.
Key theorems: `linesList_append`, `linesList_terminated_append`, `linesList_concat_blank`,
`linesList_cons_blank`, `clean_of_mem_linesList`.
-/
import Testsmith.Proofs.Text.Trim
import Testsmith.Text.Lines

namespace Testsmith.Text

/-- A line without the carriage return at its end, if it has one there. -/
def dropReturn (l : List Char) : List Char :=
  match l.reverse with
  | '\r' :: more => more.reverse
  | _ => l

/-- Lines put one after another, each with a line feed. -/
def terminated (ls : List (List Char)) : List Char := ls.flatMap (· ++ ['\n'])

/-- A line that reads back as it was written. -/
def Clean (l : List Char) : Prop := '\n' ∉ l ∧ l.getLast? ≠ some '\r'

theorem dropReturn_eq_self {l : List Char} (h : l.getLast? ≠ some '\r') : dropReturn l = l := by
  unfold dropReturn
  split
  · rename_i more hr
    rw [List.getLast?_eq_head?_reverse, hr] at h
    exact absurd rfl h
  · rfl

theorem trimEndList_dropReturn (l : List Char) : trimEndList (dropReturn l) = trimEndList l := by
  unfold dropReturn
  split
  · rename_i more hr
    rw [← List.reverse_reverse l, hr, List.reverse_cons, trimEndList_concat_blank _ (by decide)]
  · rfl

theorem prefix_dropReturn (l : List Char) : dropReturn l <+: l := by
  unfold dropReturn
  split
  · rename_i more hr
    have := List.reverse_prefix.mpr (hr ▸ List.suffix_cons '\r' more)
    simpa using this
  · exact List.prefix_refl l

/-! ### Lines of parts -/

theorem linesFrom_newline (cur cs : List Char) :
    linesFrom cur ('\n' :: cs) = dropReturn cur.reverse :: linesFrom [] cs := by
  cases cur with
  | nil => rfl
  | cons c cur =>
    rw [linesFrom.eq_def]
    by_cases hc : c = '\r' <;> simp [dropReturn, hc]

theorem linesFrom_cons {c : Char} (cur cs : List Char) (h : c ≠ '\n') :
    linesFrom cur (c :: cs) = linesFrom (c :: cur) cs := by
  rw [linesFrom.eq_def]
  simp

theorem linesFrom_nil (cur : List Char) :
    linesFrom cur [] = if cur = [] then [] else [cur.reverse] := by
  cases cur <;> rfl

/-- Characters of one line are taken up into it. -/
theorem linesFrom_append (l cur cs : List Char) (h : '\n' ∉ l) :
    linesFrom cur (l ++ cs) = linesFrom (l.reverse ++ cur) cs := by
  induction l generalizing cur with
  | nil => rfl
  | cons c l ih =>
    rw [List.mem_cons, not_or] at h
    rw [List.cons_append, linesFrom_cons cur _ (Ne.symm h.1), ih _ h.2, List.reverse_cons,
      List.append_assoc]
    rfl

/-- A line and the lines after it. -/
theorem linesList_append {l : List Char} (cs : List Char) (h : '\n' ∉ l) :
    linesList (l ++ '\n' :: cs) = dropReturn l :: linesList cs := by
  rw [linesList, linesFrom_append l [] _ h, linesFrom_newline]
  simp [linesList]

/-- Lines written with line feeds read back, together with those of the text after them. -/
theorem linesList_terminated_append : ∀ (ls : List (List Char)) (cs : List Char),
    (∀ l ∈ ls, Clean l) → linesList (terminated ls ++ cs) = ls ++ linesList cs
  | [], _, _ => rfl
  | l :: ls, cs, h => by
    have hl := h l List.mem_cons_self
    have ih := linesList_terminated_append ls cs fun x hx => h x (List.mem_cons_of_mem _ hx)
    have hcut : terminated (l :: ls) ++ cs = l ++ '\n' :: (terminated ls ++ cs) := by
      simp [terminated]
    rw [hcut, linesList_append _ hl.1, dropReturn_eq_self hl.2, ih, List.cons_append]

theorem linesList_terminated {ls : List (List Char)} (h : ∀ l ∈ ls, Clean l) :
    linesList (terminated ls) = ls := by
  have := linesList_terminated_append ls [] h
  simpa [linesList, linesFrom_nil] using this

/-- Lines that are written with line feeds, and may end in carriage returns. -/
theorem linesList_terminated_dropReturn : ∀ {ls : List (List Char)}, (∀ l ∈ ls, '\n' ∉ l) →
    linesList (terminated ls) = ls.map dropReturn
  | [], _ => rfl
  | l :: ls, h => by
    rw [List.forall_mem_cons] at h
    have hcut : terminated (l :: ls) = l ++ '\n' :: terminated ls := by simp [terminated]
    rw [hcut, linesList_append _ h.1, linesList_terminated_dropReturn h.2, List.map_cons]

theorem not_newline_of_mem_linesList {cs l : List Char} (h : l ∈ linesList cs) : '\n' ∉ l := by
  suffices hfrom : ∀ cs cur, '\n' ∉ cur → ∀ l ∈ linesFrom cur cs, '\n' ∉ l from
    hfrom cs [] (by simp) l h
  intro cs
  induction cs with
  | nil =>
    intro cur hcur l hl
    rw [linesFrom_nil] at hl
    split at hl
    · cases hl
    · rw [List.mem_singleton.mp hl, List.mem_reverse]
      exact hcur
  | cons c cs ih =>
    intro cur hcur l hl
    by_cases hc : c = '\n'
    · rw [hc, linesFrom_newline] at hl
      rcases List.mem_cons.mp hl with rfl | hl
      · exact fun hm => hcur (List.mem_reverse.mp ((prefix_dropReturn _).mem hm))
      · exact ih [] (by simp) l hl
    · rw [linesFrom_cons _ _ hc] at hl
      exact ih (c :: cur) (by simp [Ne.symm hc, hcur]) l hl

theorem terminated_append (ls ms : List (List Char)) :
    terminated (ls ++ ms) = terminated ls ++ terminated ms :=
  List.flatMap_append

/-- Joining lines gives the same as ending each, but for a line feed at the end. -/
theorem trimList_intercalate (ls : List (List Char)) :
    trimList (['\n'].intercalate ls) = trimList (terminated ls) := by
  suffices h : ls = [] ∨ ['\n'].intercalate ls ++ ['\n'] = terminated ls by
    rcases h with rfl | h
    · rfl
    · rw [← h, trimList_concat_blank _ (by decide)]
  induction ls with
  | nil => exact Or.inl rfl
  | cons l ls ih =>
    right
    rcases ih with rfl | ih
    · simp [terminated]
    · by_cases hls : ls = []
      · simp [hls, terminated]
      · rw [List.intercalate_cons_of_ne_nil hls, List.append_assoc, List.append_assoc, ih]
        simp [terminated]

/-! ### A blank more -/

/-- A blank after a text changes no line but the last, and that at its end. -/
theorem linesList_concat_blank {b : Char} (cs : List Char) (hb : isBlank b = true) :
    ∃ ls last x, linesList cs = ls ++ (if last = [] then [] else [last]) ∧
      linesList (cs ++ [b]) = ls ++ [x] ∧ trimEndList x = trimEndList last := by
  suffices h : ∀ cs cur, ∃ ls last x, linesFrom cur cs = ls ++ (if last = [] then [] else [last]) ∧
      linesFrom cur (cs ++ [b]) = ls ++ [x] ∧ trimEndList x = trimEndList last from h cs []
  intro cs
  induction cs with
  | nil =>
    intro cur
    refine ⟨[], cur.reverse, if b = '\n' then dropReturn cur.reverse else cur.reverse ++ [b], ?_⟩
    refine ⟨by simp [linesFrom_nil], ?_, ?_⟩
    · by_cases hn : b = '\n'
      · rw [if_pos hn, hn, List.nil_append, linesFrom_newline, linesFrom_nil]
        rfl
      · rw [if_neg hn, List.nil_append, linesFrom_cons _ _ hn, linesFrom_nil]
        simp
    · split
      · exact trimEndList_dropReturn _
      · exact trimEndList_concat_blank _ hb
  | cons c cs ih =>
    intro cur
    by_cases hc : c = '\n'
    · obtain ⟨ls, last, x, h1, h2, h3⟩ := ih []
      refine ⟨dropReturn cur.reverse :: ls, last, x, ?_, ?_, h3⟩
      · rw [hc, linesFrom_newline, h1, List.cons_append]
      · rw [hc, List.cons_append, linesFrom_newline, h2, List.cons_append]
    · obtain ⟨ls, last, x, h1, h2, h3⟩ := ih (c :: cur)
      exact ⟨ls, last, x, by rw [linesFrom_cons _ _ hc, h1],
        by rw [List.cons_append, linesFrom_cons _ _ hc, h2], h3⟩

theorem trimStartList_dropReturn_cons {b : Char} (l : List Char) (hb : isBlank b = true) :
    trimStartList (dropReturn (b :: l)) = trimStartList (dropReturn l) := by
  by_cases hl : l = []
  · subst hl
    have hnil : ∀ m : List Char, m <+: [b] → trimStartList m = [] := by
      intro m hm
      rcases List.prefix_cons_iff.mp hm with rfl | ⟨t, rfl, ht⟩
      · rfl
      · rw [List.prefix_nil.mp ht, trimStartList_cons_blank _ hb]
        rfl
    rw [hnil _ (prefix_dropReturn [b])]
    rfl
  · have hcons : dropReturn (b :: l) = b :: dropReturn l := by
      obtain ⟨init, c, rfl⟩ := (List.eq_nil_or_concat l).resolve_left hl
      simp only [List.concat_eq_append, dropReturn, List.reverse_cons, List.reverse_append,
        List.reverse_nil, List.nil_append, List.singleton_append]
      by_cases hc : c = '\r' <;> simp [hc]
    rw [hcons, trimStartList_cons_blank _ hb]

/-- A blank before a text changes no line but the first, and that at its start. -/
theorem linesList_cons_blank {b : Char} (cs : List Char) (hb : isBlank b = true) :
    ∃ x y ls, (linesList cs = x :: ls ∨ x = [] ∧ linesList cs = ls) ∧
      linesList (b :: cs) = y :: ls ∧ trimStartList y = trimStartList x := by
  by_cases hn : b = '\n'
  · refine ⟨[], [], linesList cs, Or.inr ⟨rfl, rfl⟩, ?_, rfl⟩
    rw [hn, linesList, linesFrom_newline]
    rfl
  suffices h : ∀ cs cur, ∃ x y ls, (linesFrom cur cs = x :: ls ∨ x = [] ∧ linesFrom cur cs = ls) ∧
      linesFrom (cur ++ [b]) cs = y :: ls ∧ trimStartList y = trimStartList x by
    have := h cs []
    rwa [List.nil_append, ← linesFrom_cons _ _ hn] at this
  intro cs
  induction cs with
  | nil =>
    intro cur
    refine ⟨cur.reverse, b :: cur.reverse, [], ?_, by simp [linesFrom_nil],
      trimStartList_cons_blank _ hb⟩
    by_cases hcur : cur = []
    · exact Or.inr ⟨by simp [hcur], by simp [hcur, linesFrom_nil]⟩
    · exact Or.inl (by simp [hcur, linesFrom_nil])
  | cons c cs ih =>
    intro cur
    by_cases hc : c = '\n'
    · refine ⟨dropReturn cur.reverse, dropReturn (b :: cur.reverse), linesFrom [] cs, ?_, ?_,
        trimStartList_dropReturn_cons _ hb⟩
      · exact Or.inl (by rw [hc, linesFrom_newline])
      · rw [hc, linesFrom_newline, List.reverse_append]
        rfl
    · rw [linesFrom_cons _ _ hc, linesFrom_cons _ _ hc, ← List.cons_append]
      exact ih (c :: cur)

/-! ### Lines that read back -/

/-- In a text in which no line ends in two carriage returns, and which does not end in one, the
lines read back as they are. -/
theorem clean_of_mem_linesList {cs l : List Char} (hr : ¬['\r', '\r', '\n'] <:+: cs)
    (he : cs.getLast? ≠ some '\r') (hl : l ∈ linesList cs) : Clean l := by
  suffices h : ∀ cs cur, '\n' ∉ cur → ¬['\r', '\r', '\n'] <:+: cur.reverse ++ cs →
      (cur.reverse ++ cs).getLast? ≠ some '\r' → ∀ l ∈ linesFrom cur cs, Clean l from
    h cs [] (by simp) hr he l hl
  clear hr he hl l cs
  intro cs
  induction cs with
  | nil =>
    intro cur hcur _ he l hl
    rw [linesFrom_nil] at hl
    split at hl
    · cases hl
    · rw [List.mem_singleton.mp hl]
      exact ⟨by simpa using hcur, by simpa using he⟩
  | cons c cs ih =>
    intro cur hcur hr he l hl
    by_cases hc : c = '\n'
    · subst hc
      rw [linesFrom_newline] at hl
      rcases List.mem_cons.mp hl with rfl | hl
      · refine ⟨fun hm => hcur ?_, fun hm => ?_⟩
        · exact List.mem_reverse.mp ((prefix_dropReturn _).mem hm)
        · by_cases hlast : cur.reverse.getLast? = some '\r'
          · obtain ⟨m, hm'⟩ := List.getLast?_eq_some_iff.mp hlast
            have hd : dropReturn cur.reverse = m := by simp [dropReturn, hm']
            rw [hd] at hm
            obtain ⟨m', rfl⟩ := List.getLast?_eq_some_iff.mp hm
            exact hr ⟨m', cs, by simp [hm']⟩
          · rw [dropReturn_eq_self hlast] at hm
            exact hlast hm
      · refine ih [] (by simp) (fun hi => hr (hi.trans ?_)) (fun hg => he ?_) l hl
        · exact ⟨cur.reverse ++ ['\n'], [], by simp⟩
        · simp only [List.reverse_nil, List.nil_append] at hg
          simp [List.getLast?_append, List.getLast?_cons, hg]
    · rw [linesFrom_cons _ _ hc] at hl
      refine ih (c :: cur) ?_ ?_ ?_ l hl
      · simpa [Ne.symm hc] using hcur
      · simpa using hr
      · simpa using he

end Testsmith.Text
