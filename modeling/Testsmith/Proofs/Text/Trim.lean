/-
# Trimming

Laws of trimming at both ends. What does not change when a blank is put before or after a text does
not change when the text is trimmed (`apply_trimList`); most laws here, and the laws of lines built
on them, are that lemma at some function.

Key theorems: `apply_trimList`, `trimList_blanks_append`, `trimList_eq_self`, `infix_trimList`.
-/
import Testsmith.Text.Blank

namespace Testsmith.Text

/-! ### One end -/

theorem trimStartList_cons_blank {b : Char} (cs : List Char) (h : isBlank b = true) :
    trimStartList (b :: cs) = trimStartList cs := by
  simp [trimStartList, h]

theorem trimStartList_cons {c : Char} (cs : List Char) (h : isBlank c = false) :
    trimStartList (c :: cs) = c :: cs := by
  simp [trimStartList, h]

theorem trimEndList_concat_blank {b : Char} (cs : List Char) (h : isBlank b = true) :
    trimEndList (cs ++ [b]) = trimEndList cs :=
  trimEndList_append_blank fun x hx => by rwa [List.mem_singleton.mp hx]

theorem trimEndList_concat {c : Char} (cs : List Char) (h : isBlank c = false) :
    trimEndList (cs ++ [c]) = cs ++ [c] := by
  simp [trimEndList, h]

theorem trimEndList_nil : trimEndList [] = [] := rfl

theorem trimStartList_suffix (cs : List Char) : trimStartList cs <:+ cs := List.dropWhile_suffix _

theorem prefix_trimEndList (cs : List Char) : trimEndList cs <+: cs := by
  have h := List.reverse_prefix.mpr (List.dropWhile_suffix (l := cs.reverse) isBlank)
  rwa [List.reverse_reverse] at h

/-- A text is blanks and the text trimmed at its start. -/
theorem exists_trimStartList : ∀ cs : List Char,
    ∃ bs, (∀ b ∈ bs, isBlank b = true) ∧ cs = bs ++ trimStartList cs
  | [] => ⟨[], by simp, rfl⟩
  | c :: cs => by
    cases hc : isBlank c with
    | false => exact ⟨[], by simp, by simp [trimStartList, hc]⟩
    | true =>
      obtain ⟨bs, hbs, he⟩ := exists_trimStartList cs
      refine ⟨c :: bs, ?_, ?_⟩
      · intro b hb
        rcases List.mem_cons.mp hb with rfl | hb
        · exact hc
        · exact hbs b hb
      · rw [trimStartList_cons_blank cs hc, List.cons_append, ← he]

/-- What blanks before a text do not change, trimming at the start does not change. -/
theorem apply_trimStartList {β : Type} {f : List Char → β}
    (h : ∀ b cs, isBlank b = true → f (b :: cs) = f cs) (cs : List Char) :
    f (trimStartList cs) = f cs := by
  obtain ⟨bs, hbs, he⟩ := exists_trimStartList cs
  suffices hf : ∀ (bs rest : List Char), (∀ b ∈ bs, isBlank b = true) → f (bs ++ rest) = f rest by
    rw [← hf bs _ hbs, ← he]
  intro bs rest
  induction bs with
  | nil => exact fun _ => rfl
  | cons b bs ih =>
    intro hb
    rw [List.cons_append, h b _ (hb b List.mem_cons_self)]
    exact ih fun x hx => hb x (List.mem_cons_of_mem _ hx)

/-- What blanks after a text do not change, trimming at the end does not change. -/
theorem apply_trimEndList {β : Type} {f : List Char → β}
    (h : ∀ b cs, isBlank b = true → f (cs ++ [b]) = f cs) (cs : List Char) :
    f (trimEndList cs) = f cs := by
  have hr := apply_trimStartList (f := fun cs => f cs.reverse)
    (fun b cs hb => by rw [List.reverse_cons, h b _ hb]) cs.reverse
  rwa [List.reverse_reverse] at hr

/-! ### Both ends -/

/-- What blanks around a text do not change, trimming does not change. -/
theorem apply_trimList {β : Type} {f : List Char → β}
    (hs : ∀ b cs, isBlank b = true → f (b :: cs) = f cs)
    (he : ∀ b cs, isBlank b = true → f (cs ++ [b]) = f cs) (cs : List Char) :
    f (trimList cs) = f cs :=
  (apply_trimEndList he _).trans (apply_trimStartList hs cs)

theorem trimList_cons_blank {b : Char} (cs : List Char) (h : isBlank b = true) :
    trimList (b :: cs) = trimList cs := by
  rw [trimList, trimStartList_cons_blank cs h, trimList]

theorem trimList_concat_blank {b : Char} (cs : List Char) (h : isBlank b = true) :
    trimList (cs ++ [b]) = trimList cs := by
  induction cs with
  | nil => simp [trimList, trimStartList, h]
  | cons c cs ih =>
    cases hc : isBlank c with
    | true => rw [List.cons_append, trimList_cons_blank _ hc, ih, trimList_cons_blank _ hc]
    | false =>
      rw [List.cons_append, trimList, trimStartList_cons _ hc, ← List.cons_append,
        trimEndList_concat_blank _ h, trimList, trimStartList_cons _ hc]

theorem trimList_trimList (cs : List Char) : trimList (trimList cs) = trimList cs :=
  apply_trimList (fun _ cs h => trimList_cons_blank cs h)
    (fun _ cs h => trimList_concat_blank cs h) cs

theorem trimList_append_trimEndList (pre cs : List Char) :
    trimList (pre ++ trimEndList cs) = trimList (pre ++ cs) :=
  apply_trimEndList (f := fun cs => trimList (pre ++ cs))
    (fun b cs h => by rw [← List.append_assoc, trimList_concat_blank _ h]) cs

theorem trimList_trimStartList_append (cs post : List Char) :
    trimList (trimStartList cs ++ post) = trimList (cs ++ post) :=
  apply_trimStartList (f := fun cs => trimList (cs ++ post))
    (fun b cs h => by rw [List.cons_append, trimList_cons_blank _ h]) cs

/-- Blanks before a text are trimmed away. -/
theorem trimList_blanks_append {bs : List Char} (cs : List Char) (h : ∀ b ∈ bs, isBlank b = true) :
    trimList (bs ++ cs) = trimList cs := by
  induction bs with
  | nil => rfl
  | cons b bs ih =>
    rw [List.forall_mem_cons] at h
    rw [List.cons_append, trimList_cons_blank _ h.1, ih h.2]

/-- Blanks after a text are trimmed away. -/
theorem trimList_append_blanks {bs : List Char} (cs : List Char)
    (h : ∀ b ∈ bs, isBlank b = true) : trimList (cs ++ bs) = trimList cs := by
  have hnil : trimEndList bs = [] := by
    rw [← List.nil_append bs, trimEndList_append_blank h]
    rfl
  rw [← trimList_append_trimEndList, hnil, List.append_nil]

/-- Before a last character that is no blank only the start is trimmed. -/
theorem trimList_concat {c : Char} (cs : List Char) (h : isBlank c = false) :
    trimList (cs ++ [c]) = trimStartList cs ++ [c] := by
  have hstart : trimStartList (cs ++ [c]) = trimStartList cs ++ [c] := by
    induction cs with
    | nil => exact trimStartList_cons [] h
    | cons b cs ih =>
      cases hb : isBlank b with
      | true => rw [List.cons_append, trimStartList_cons_blank _ hb, ih,
          trimStartList_cons_blank _ hb]
      | false => rw [List.cons_append, trimStartList_cons _ hb, trimStartList_cons _ hb,
          List.cons_append]
  rw [trimList, hstart, trimEndList_concat _ h]

/-- A text that neither starts nor ends with a blank is trimmed. -/
theorem trimList_eq_self {cs : List Char} (hs : ∀ c, cs.head? = some c → isBlank c = false)
    (he : ∀ c, cs.getLast? = some c → isBlank c = false) : trimList cs = cs := by
  rw [trimList, trimStartList_eq_self_iff.mpr hs]
  rcases List.eq_nil_or_concat cs with rfl | ⟨init, c, rfl⟩
  · rfl
  · rw [List.concat_eq_append]
    exact trimEndList_concat init (he c (by simp))

/-- A trimmed text is in the text it was trimmed from. -/
theorem infix_trimList (cs : List Char) : trimList cs <:+: cs :=
  (prefix_trimEndList _).isInfix.trans (trimStartList_suffix cs).isInfix

/-- No blank is the last character of a text trimmed at its end. -/
theorem not_blank_of_getLast?_trimEndList {cs : List Char} {c : Char}
    (h : (trimEndList cs).getLast? = some c) : isBlank c = false := by
  rw [trimEndList, List.getLast?_reverse] at h
  have := List.head?_dropWhile_not isBlank cs.reverse
  rw [h] at this
  simpa using this

theorem not_blank_of_getLast?_trimList {cs : List Char} {c : Char}
    (h : (trimList cs).getLast? = some c) : isBlank c = false :=
  not_blank_of_getLast?_trimEndList h

theorem not_blank_of_head?_trimList {cs : List Char} {c : Char}
    (h : (trimList cs).head? = some c) : isBlank c = false := by
  obtain ⟨tail, ht⟩ := prefix_trimEndList (trimStartList cs)
  have hhead : (trimStartList cs).head? = some c := by
    rw [trimList] at h
    rw [← ht, List.head?_append, h]
    rfl
  have hnot := List.head?_dropWhile_not isBlank cs
  rw [trimStartList] at hhead
  rw [hhead] at hnot
  simpa using hnot

end Testsmith.Text
