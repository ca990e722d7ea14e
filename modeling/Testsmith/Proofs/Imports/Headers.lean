/-
# Headers and body

Generated code is told apart line by line, and blanks around it say nothing: neither the imports it
declares nor its body change when it is trimmed (`declaredTargets_trimList`, `bodyList_trimList`).
Code that is put together from lines and more text is told apart part by part, and the body of a
text holds no headers itself.

Key definitions: `importsOf`, `bodyOf`.
Key theorems: `declaredTargets_trimList`, `bodyList_trimList`, `split_bodyList`,
`split_terminated_append`.
-/
import Testsmith.Imports.Split
import Testsmith.Proofs.Text.Lines

namespace Testsmith

open Text

/-- The import targets that lines declare. -/
def importsOf (ls : List (List Char)) : List (List Char) :=
  ls.filterMap fun line =>
    match HeaderLine.of line with
    | .importOf target => some target
    | _ => none

/-- The lines that are no headers. -/
def bodyOf (ls : List (List Char)) : List (List Char) :=
  ls.filter fun line => HeaderLine.of line = .body

theorem declaredTargets_eq (cs : List Char) : declaredTargets cs = importsOf (linesList cs) := rfl

theorem bodyList_eq (cs : List Char) :
    bodyList cs = trimList (terminated (bodyOf (linesList cs))) :=
  trimList_intercalate _

theorem importsOf_append (ls ms : List (List Char)) :
    importsOf (ls ++ ms) = importsOf ls ++ importsOf ms :=
  List.filterMap_append

theorem bodyOf_append (ls ms : List (List Char)) : bodyOf (ls ++ ms) = bodyOf ls ++ bodyOf ms :=
  List.filter_append ..

/-! ### One line -/

/-- What a line is does not depend on the blanks around it. -/
theorem HeaderLine.of_congr {l m : List Char} (h : trimList l = trimList m) :
    HeaderLine.of l = HeaderLine.of m := by
  rw [HeaderLine.of, HeaderLine.of, h]

theorem HeaderLine.of_blank {l : List Char} (h : trimList l = []) : HeaderLine.of l = .body := by
  rw [HeaderLine.of, h]
  rfl

theorem trimList_eq_of_trimEndList {l m : List Char} (h : trimEndList l = trimEndList m) :
    trimList l = trimList m := by
  have hl := trimList_append_trimEndList [] l
  rw [h, trimList_append_trimEndList] at hl
  exact hl.symm

theorem trimList_eq_of_trimStartList {l m : List Char} (h : trimStartList l = trimStartList m) :
    trimList l = trimList m := by
  rw [trimList, trimList, h]

theorem importsOf_singleton {l m : List Char} (h : trimList l = trimList m) :
    importsOf [l] = importsOf [m] := by
  simp only [importsOf, List.filterMap_cons, HeaderLine.of_congr h]

theorem importsOf_blank {l : List Char} (h : trimList l = []) : importsOf [l] = [] := by
  simp [importsOf, HeaderLine.of_blank h]

theorem terminated_singleton (l : List Char) : terminated [l] = l ++ ['\n'] := by
  simp [terminated]

/-- The body ends alike when the last line is replaced by one with other blanks at its end. -/
theorem trimList_bodyOf_last (pre : List Char) {l m : List Char}
    (h : trimEndList l = trimEndList m) :
    trimList (pre ++ terminated (bodyOf [l])) = trimList (pre ++ terminated (bodyOf [m])) := by
  have hof := HeaderLine.of_congr (trimList_eq_of_trimEndList h)
  by_cases hb : HeaderLine.of m = .body
  · have hl : bodyOf [l] = [l] := by simp [bodyOf, hof, hb]
    have hm : bodyOf [m] = [m] := by simp [bodyOf, hb]
    rw [hl, hm, terminated_singleton, terminated_singleton, ← trimList_append_trimEndList,
      trimEndList_concat_blank _ (by decide), h,
      ← trimEndList_concat_blank m (b := '\n') (by decide),
      trimList_append_trimEndList]
  · have hl : bodyOf [l] = [] := by simp [bodyOf, hof, hb]
    have hm : bodyOf [m] = [] := by simp [bodyOf, hb]
    rw [hl, hm]

/-- The body starts alike when the first line is replaced by one with other blanks at its start. -/
theorem trimList_bodyOf_first (post : List Char) {l m : List Char}
    (h : trimStartList l = trimStartList m) :
    trimList (terminated (bodyOf [l]) ++ post) = trimList (terminated (bodyOf [m]) ++ post) := by
  have hof := HeaderLine.of_congr (trimList_eq_of_trimStartList h)
  by_cases hb : HeaderLine.of m = .body
  · have hl : bodyOf [l] = [l] := by simp [bodyOf, hof, hb]
    have hm : bodyOf [m] = [m] := by simp [bodyOf, hb]
    rw [hl, hm, terminated_singleton, terminated_singleton, List.append_assoc, List.append_assoc,
      ← trimList_trimStartList_append l, h, trimList_trimStartList_append]
  · have hl : bodyOf [l] = [] := by simp [bodyOf, hof, hb]
    have hm : bodyOf [m] = [] := by simp [bodyOf, hb]
    rw [hl, hm]

/-- A blank line at the end of the body is trimmed away. -/
theorem trimList_bodyOf_blank (pre : List Char) {l : List Char} (h : trimEndList l = []) :
    trimList (pre ++ terminated (bodyOf [l])) = trimList pre := by
  have hnil : trimList (pre ++ terminated (bodyOf [[]])) = trimList pre :=
    trimList_concat_blank pre (by decide)
  rw [trimList_bodyOf_last pre (m := []) (by rw [h]; rfl), hnil]

/-! ### Blanks around a text -/

theorem split_concat_blank {b : Char} (cs : List Char) (hb : isBlank b = true) :
    declaredTargets (cs ++ [b]) = declaredTargets cs ∧ bodyList (cs ++ [b]) = bodyList cs := by
  obtain ⟨ls, last, x, h1, h2, hx⟩ := linesList_concat_blank cs hb
  simp only [declaredTargets_eq, bodyList_eq, h1, h2, importsOf_append, bodyOf_append,
    terminated_append]
  by_cases hlast : last = []
  · rw [hlast, trimEndList_nil] at hx
    rw [if_pos hlast]
    refine ⟨?_, ?_⟩
    · rw [importsOf_blank (trimList_eq_of_trimEndList (m := []) hx)]
      rfl
    · rw [trimList_bodyOf_blank _ hx]
      exact congrArg trimList (List.append_nil _).symm
  · rw [if_neg hlast]
    exact ⟨by rw [importsOf_singleton (trimList_eq_of_trimEndList hx)], trimList_bodyOf_last _ hx⟩

theorem split_cons_blank {b : Char} (cs : List Char) (hb : isBlank b = true) :
    declaredTargets (b :: cs) = declaredTargets cs ∧ bodyList (b :: cs) = bodyList cs := by
  obtain ⟨x, y, ls, hxs, hys, hxy⟩ := linesList_cons_blank cs hb
  have hcons (l : List Char) : importsOf (l :: ls) = importsOf [l] ++ importsOf ls ∧
      terminated (bodyOf (l :: ls)) = terminated (bodyOf [l]) ++ terminated (bodyOf ls) :=
    ⟨importsOf_append [l] ls, by rw [← terminated_append, ← bodyOf_append, List.singleton_append]⟩
  simp only [declaredTargets_eq, bodyList_eq, hys, (hcons y).1, (hcons y).2]
  rw [importsOf_singleton (trimList_eq_of_trimStartList hxy), trimList_bodyOf_first _ hxy]
  rcases hxs with hxs | ⟨rfl, hxs⟩
  · rw [hxs, (hcons x).1, (hcons x).2]
    exact ⟨rfl, rfl⟩
  · rw [hxs]
    exact ⟨rfl, trimList_cons_blank _ (by decide)⟩

theorem declaredTargets_trimList (cs : List Char) :
    declaredTargets (trimList cs) = declaredTargets cs :=
  apply_trimList (fun _ cs hb => (split_cons_blank cs hb).1)
    (fun _ cs hb => (split_concat_blank cs hb).1)
    cs

theorem bodyList_trimList (cs : List Char) : bodyList (trimList cs) = bodyList cs :=
  apply_trimList (fun _ cs hb => (split_cons_blank cs hb).2)
    (fun _ cs hb => (split_concat_blank cs hb).2)
    cs

/-! ### The body of a text -/

theorem trimList_bodyList (cs : List Char) : trimList (bodyList cs) = bodyList cs :=
  trimList_trimList _

theorem importsOf_bodyOf (ls : List (List Char)) : importsOf (bodyOf ls) = [] := by
  rw [importsOf, List.filterMap_eq_nil_iff]
  intro l hl
  have hb : HeaderLine.of l = .body := by simpa [bodyOf] using (List.mem_filter.mp hl).2
  rw [hb]

theorem bodyOf_bodyOf (ls : List (List Char)) : bodyOf (bodyOf ls) = bodyOf ls := by
  simp [bodyOf]

/-- The lines of a text, when they read back as they are, make a body without headers, and the body
of that is itself. -/
theorem split_bodyList {cs : List Char} (h : ∀ l ∈ linesList cs, Clean l) :
    declaredTargets (bodyList cs) = [] ∧ bodyList (bodyList cs) = bodyList cs := by
  have hc : ∀ l ∈ bodyOf (linesList cs), Clean l := fun l hl => h l (List.mem_filter.mp hl).1
  rw [bodyList_eq cs, declaredTargets_trimList, bodyList_trimList, declaredTargets_eq, bodyList_eq,
    linesList_terminated hc]
  exact ⟨importsOf_bodyOf _, by rw [bodyOf_bodyOf]⟩

/-- Text put together from lines and more text is told apart part by part. -/
theorem split_terminated_append {ls : List (List Char)} (cs : List Char) (h : ∀ l ∈ ls, Clean l) :
    declaredTargets (terminated ls ++ cs) = importsOf ls ++ declaredTargets cs ∧
      bodyList (terminated ls ++ cs) =
        trimList (terminated (bodyOf ls) ++ terminated (bodyOf (linesList cs))) := by
  rw [declaredTargets_eq, bodyList_eq, linesList_terminated_append ls cs h, importsOf_append,
    bodyOf_append, terminated_append]
  exact ⟨rfl, rfl⟩

end Testsmith
