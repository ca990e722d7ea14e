/-
# Headers and declarations

Code is told apart into headers and body by its lines, and Java by its grammar. A line reads as a
header when it begins with one of the two words and a space and ends with a semicolon, blanks around
it aside (`ReadsAsHeader`). Whatever lies only on lines that do not stays in the body
(`lineFeeds_infix_bodyList`); what stands alone on a line that does is gone (`bodyList_alone`); and
no line of the body does (`not_readsAsHeader_bodyList`).

Key definitions: `ReadsAsHeader`.
Key theorems: `of_eq_body_iff`, `lineFeeds_infix_bodyList`, `bodyList_alone`,
`not_readsAsHeader_bodyList`.
-/
import Testsmith.Java.Mentions
import Testsmith.Proofs.Imports.Stable
import Testsmith.Proofs.Text.Stretch

namespace Testsmith

open Text

/-! ### Lines that read as headers -/

/-- The text is taken for a header where it makes up a line. -/
def ReadsAsHeader (cs : List Char) : Prop := ∃ rest, cs = importLine rest ∨ cs = packageLine rest

/-- A text that reads as a header has no blanks at its ends. -/
theorem ReadsAsHeader.trimList_eq {cs : List Char} (h : ReadsAsHeader cs) : trimList cs = cs := by
  obtain ⟨rest, rfl | rfl⟩ := h
  · exact trimList_headerLine _ rest (by decide)
  · exact trimList_headerLine _ rest (by decide)

theorem not_readsAsHeader_nil : ¬ReadsAsHeader [] := by
  rintro ⟨rest, h | h⟩ <;> cases h

theorem ReadsAsHeader.trimList_ne_nil {cs : List Char} (h : ReadsAsHeader cs) :
    trimList cs ≠ [] := by
  rw [h.trimList_eq]
  rintro rfl
  exact not_readsAsHeader_nil h

theorem importTarget?_eq_some_iff {cs target : List Char} :
    HeaderLine.importTarget? cs = some target ↔
      ∃ rest, cs = importLine rest ∧ normalizeBlanks rest = target := by
  rw [HeaderLine.importTarget?, Option.map_eq_some_iff]
  constructor
  · rintro ⟨rest, h, rfl⟩
    obtain ⟨tail, htail, hrest⟩ := Option.bind_eq_some_iff.mp h
    rw [beforeEnd?_eq_some_iff] at hrest
    rw [afterStart?_eq_some_iff, hrest] at htail
    exact ⟨rest, htail, rfl⟩
  · rintro ⟨rest, rfl, rfl⟩
    have htail : afterStart? "import ".toList (importLine rest) = some (rest ++ [';']) :=
      afterStart?_eq_some_iff.mpr rfl
    exact ⟨rest, by rw [htail, Option.bind_some, beforeEnd?_eq_some_iff], rfl⟩

theorem isPackage_iff {cs : List Char} :
    HeaderLine.isPackage cs = true ↔ ∃ rest, cs = packageLine rest := by
  rw [HeaderLine.isPackage, Bool.and_eq_true, beq_iff_eq, Option.isSome_iff_exists]
  constructor
  · rintro ⟨⟨tail, htail⟩, hlast⟩
    rw [afterStart?_eq_some_iff] at htail
    rcases List.eq_nil_or_concat tail with rfl | ⟨rest, c, rfl⟩
    · rw [htail] at hlast
      exact absurd hlast (by decide)
    · rw [htail, List.concat_eq_append, ← List.append_assoc, List.getLast?_concat,
        Option.some.injEq] at hlast
      exact ⟨rest, by rw [htail, hlast, List.concat_eq_append]; rfl⟩
  · rintro ⟨rest, rfl⟩
    exact ⟨⟨rest ++ [';'], afterStart?_eq_some_iff.mpr rfl⟩, getLast?_headerLine _ rest⟩

/-- **A line is of the body unless it reads as a header**, blanks around it aside. -/
theorem of_eq_body_iff {line : List Char} :
    HeaderLine.of line = .body ↔ ¬ReadsAsHeader (trimList line) := by
  rw [HeaderLine.of]
  cases htarget : HeaderLine.importTarget? (trimList line) with
  | some target =>
    obtain ⟨rest, hrest, -⟩ := importTarget?_eq_some_iff.mp htarget
    simp only [reduceCtorEq, false_iff, not_not]
    exact ⟨rest, Or.inl hrest⟩
  | none =>
    have hno (rest : List Char) : trimList line ≠ importLine rest := by
      intro h
      rw [importTarget?_eq_some_iff.mpr ⟨rest, h, rfl⟩] at htarget
      cases htarget
    have hiff : ReadsAsHeader (trimList line) ↔ HeaderLine.isPackage (trimList line) = true := by
      rw [isPackage_iff]
      exact exists_congr fun rest => or_iff_right (hno rest)
    rw [hiff]
    cases HeaderLine.isPackage (trimList line) <;> simp

theorem bodyOf_eq_self {ls : List (List Char)} (h : ∀ line ∈ ls, ¬ReadsAsHeader (trimList line)) :
    bodyOf ls = ls :=
  List.filter_eq_self.mpr fun line hline => decide_eq_true (of_eq_body_iff.mpr (h line hline))

/-! ### Stretches of a text -/

theorem bodyOf_stretch (before stretch after : List Char) :
    bodyOf (linesList (before ++ stretch ++ after)) = bodyOf (linesList (linesAbove before)) ++
      (bodyOf (linesOn before stretch after) ++ bodyOf (linesList (linesBelow after))) := by
  rw [linesList_stretch, bodyOf_append, bodyOf_append]

/-- **What lies on no line that reads as a header stays in the body.** -/
theorem lineFeeds_infix_bodyList {before stretch after : List Char}
    (h : ∀ line ∈ linesOn before stretch after, ¬ReadsAsHeader (trimList line)) :
    lineFeeds (trimList stretch) <:+: bodyList (before ++ stretch ++ after) := by
  rw [bodyList_eq]
  refine infix_trimList_lineFeeds ((infix_terminated before stretch after).trans ?_)
  rw [bodyOf_stretch, bodyOf_eq_self h, terminated_append, terminated_append]
  exact List.infix_append' _ _ _

/-- **What stands alone on a line and reads as a header is gone**, and so is its line. -/
theorem bodyList_alone {before stretch after : List Char} (h : Alone before stretch after)
    (hreads : ReadsAsHeader stretch) :
    bodyList (before ++ stretch ++ after) = bodyList (linesAbove before ++ linesBelow after) := by
  obtain ⟨line, hline, htrim⟩ := linesOn_alone h hreads.trimList_ne_nil
  have hbody : bodyOf [line] = [] := by
    rw [bodyOf, List.filter_cons_of_neg, List.filter_nil]
    rw [decide_eq_true_iff, of_eq_body_iff, htrim, hreads.trimList_eq]
    exact not_not_intro hreads
  rw [bodyList_eq, bodyList_eq, bodyOf_stretch, hline, hbody, List.nil_append,
    linesList_append_of_endsLine (endsLine_linesAbove before), bodyOf_append]

/-- What is imported on a line of its own is declared. -/
theorem mem_declaredTargets_alone {before target after : List Char}
    (h : Alone before (importLine target) after) :
    normalizeBlanks target ∈ declaredTargets (before ++ importLine target ++ after) := by
  have hreads : ReadsAsHeader (importLine target) := ⟨target, Or.inl rfl⟩
  obtain ⟨line, hline, hsame⟩ := linesOn_alone h hreads.trimList_ne_nil
  have hof : HeaderLine.of line = .importOf (normalizeBlanks target) := by
    rw [HeaderLine.of, hsame, hreads.trimList_eq, importTarget?_eq_some_iff.mpr ⟨target, rfl, rfl⟩]
  rw [declaredTargets_eq, linesList_stretch, importsOf_append, importsOf_append, hline]
  simp only [importsOf, List.filterMap_cons, hof, List.mem_append, List.mem_cons, true_or, or_true]

/-! ### Lines of the body -/

/-- No line of the text reads as a header. -/
def Headerless (cs : List Char) : Prop := ∀ line ∈ linesList cs, ¬ReadsAsHeader (trimList line)

/-- Trimming makes no line a header, and no header a line of another kind. -/
theorem headerless_trimList (cs : List Char) : Headerless (trimList cs) ↔ Headerless cs := by
  refine iff_of_eq (apply_trimList (f := Headerless) (fun b cs hb => ?_) (fun b cs hb => ?_) cs)
  · obtain ⟨x, y, ls, hx, hy, hxy⟩ := linesList_cons_blank cs hb
    have htrim := trimList_eq_of_trimStartList hxy
    rcases hx with hx | ⟨rfl, hx⟩
    · simp only [Headerless, hx, hy, List.forall_mem_cons, htrim]
    · have hnil : ¬ReadsAsHeader (trimList y) := by
        rw [htrim]
        exact not_readsAsHeader_nil
      simp only [Headerless, hx, hy, List.forall_mem_cons, hnil, not_false_eq_true, true_and]
  · obtain ⟨ls, last, x, h, hx, hxl⟩ := linesList_concat_blank cs hb
    have htrim := trimList_eq_of_trimEndList hxl
    by_cases hlast : last = []
    · have hnil : ¬ReadsAsHeader (trimList x) := by
        rw [htrim, hlast]
        exact not_readsAsHeader_nil
      simp only [Headerless, h, hx, hlast, if_true, List.append_nil, List.forall_mem_append,
        List.forall_mem_singleton, hnil, not_false_eq_true, and_true]
    · simp only [Headerless, h, hx, if_neg hlast, List.forall_mem_append,
        List.forall_mem_singleton, htrim]

/-- **No line of the body reads as a header.** -/
theorem headerless_bodyList (cs : List Char) : Headerless (bodyList cs) := by
  rw [bodyList_eq, headerless_trimList, Headerless, linesList_terminated_dropReturn]
  · intro line hline
    obtain ⟨l, hl, rfl⟩ := List.mem_map.mp hline
    have hof : HeaderLine.of l = .body := of_decide_eq_true (List.mem_filter.mp hl).2
    rw [of_eq_body_iff] at hof
    rwa [trimList_eq_of_trimEndList (trimEndList_dropReturn l)]
  · exact fun l hl => not_newline_of_mem_linesList (List.mem_filter.mp hl).1

/-- What stands alone on a line of the body does not read as a header. -/
theorem not_readsAsHeader_of_alone {cs before stretch after : List Char}
    (hcut : bodyList cs = before ++ stretch ++ after) (h : Alone before stretch after) :
    ¬ReadsAsHeader stretch := by
  intro hreads
  obtain ⟨line, hline, htrim⟩ := linesOn_alone h hreads.trimList_ne_nil
  refine headerless_bodyList cs line ?_ ?_
  · rw [hcut, linesList_stretch, hline]
    simp
  · rwa [htrim, hreads.trimList_eq]

end Testsmith
