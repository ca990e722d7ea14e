/-
# Replies without code

A reply may hold nothing but fences, blanks and header lines (`Codeless`). Whether there is code in
it is asked before its header lines are taken away, and of the text without the fences around it. A
reply of which nothing is left when both are gone is codeless (`spare_of_bodyList_eq_nil`); but a
codeless reply may still have text in it when only the fences are gone (`Overlooked`).

Key definitions: `Spare`, `Codeless`, `Overlooked`.
Key theorems: `Spare.of_lines`, `spare_of_bodyList_eq_nil`.
-/
import Testsmith.Proofs.Imports.Separation
import Testsmith.Proofs.Reply.Fence

namespace Testsmith

open Text

/-- The text is made of nothing but blanks, fences and header lines. -/
inductive Spare : List Char → Prop
  | nil : Spare []
  | blank {b : Char} {rest : List Char} (isBlank : isBlank b = true) (more : Spare rest) :
      Spare (b :: rest)
  | fence {rest : List Char} (more : Spare rest) : Spare (fence ++ rest)
  /-- An opening fence, with what stands behind it on its line. -/
  | opening {info rest : List Char} (line : '\n' ∉ info) (more : Spare rest) :
      Spare (Testsmith.fence ++ (info ++ '\n' :: rest))
  | header {line rest : List Char} (reads : ReadsAsHeader line) (one : '\n' ∉ line)
      (more : Spare rest) : Spare (line ++ rest)

/-- There is no code in the text. At its end there may be an opening fence with the name of a
language. -/
def Codeless (cs : List Char) : Prop :=
  Spare cs ∨ ∃ front word, Spare front ∧ (∀ c ∈ word, c.isAlphanum = true) ∧
    cs = front ++ (fence ++ word)

/-- There is no code in the reply, and yet there is text in it when the fences are gone. -/
def Overlooked (text : String) : Prop := Codeless text.toList ∧ stripFences text ≠ ""

/-! ### Blanks at the ends -/

theorem exists_trimEndList (cs : List Char) :
    ∃ es, (∀ b ∈ es, isBlank b = true) ∧ cs = trimEndList cs ++ es := by
  obtain ⟨bs, hbs, he⟩ := exists_trimStartList cs.reverse
  refine ⟨bs.reverse, fun b hb => hbs b (List.mem_reverse.mp hb), ?_⟩
  have hrev := congrArg List.reverse he
  rwa [List.reverse_reverse, List.reverse_append] at hrev

/-- A text is the text trimmed, between blanks. -/
theorem exists_trimList (cs : List Char) :
    ∃ bs es, (∀ b ∈ bs, isBlank b = true) ∧ (∀ b ∈ es, isBlank b = true) ∧
      cs = bs ++ (trimList cs ++ es) := by
  obtain ⟨bs, hbs, hstart⟩ := exists_trimStartList cs
  obtain ⟨es, hes, hend⟩ := exists_trimEndList (trimStartList cs)
  refine ⟨bs, es, hbs, hes, ?_⟩
  rw [trimList, ← hend, ← hstart]

theorem trimList_eq_nil_iff {cs : List Char} :
    trimList cs = [] ↔ ∀ c ∈ cs, isBlank c = true := by
  constructor
  · intro h
    obtain ⟨bs, es, hbs, hes, hcs⟩ := exists_trimList cs
    rw [h, List.nil_append] at hcs
    intro c hc
    rw [hcs] at hc
    exact (List.mem_append.mp hc).elim (hbs c) (hes c)
  · intro h
    have htrim := trimList_blanks_append [] h
    rwa [List.append_nil] at htrim

/-! ### Texts without code -/

namespace Spare

theorem append {cs ds : List Char} (h : Spare cs) (hd : Spare ds) : Spare (cs ++ ds) := by
  induction h with
  | nil => exact hd
  | blank hb _ ih => exact .blank hb ih
  | fence _ ih =>
    rw [List.append_assoc]
    exact .fence ih
  | opening hline _ ih =>
    rw [List.append_assoc, List.append_assoc, List.cons_append]
    exact .opening hline ih
  | header hreads hone _ ih =>
    rw [List.append_assoc]
    exact .header hreads hone ih

theorem of_blanks {bs : List Char} (h : ∀ b ∈ bs, isBlank b = true) : Spare bs := by
  induction bs with
  | nil => exact .nil
  | cons b bs ih =>
    rw [List.forall_mem_cons] at h
    exact .blank h.1 (ih h.2)

/-- Blanks at the ends do not make code of a text. -/
theorem of_trimList {cs : List Char} (h : Spare (trimList cs)) : Spare cs := by
  obtain ⟨bs, es, hbs, hes, hcs⟩ := exists_trimList cs
  rw [hcs]
  exact (of_blanks hbs).append (h.append (of_blanks hes))

theorem of_trimEndList {cs : List Char} (h : Spare (trimEndList cs)) : Spare cs := by
  obtain ⟨es, hes, hcs⟩ := exists_trimEndList cs
  rw [hcs]
  exact h.append (of_blanks hes)

/-- A line that is blank or a header, blanks around it aside. -/
theorem of_line {line : List Char} (hone : '\n' ∉ line)
    (h : trimList line = [] ∨ ReadsAsHeader (trimList line)) : Spare line := by
  refine of_trimList ?_
  rcases h with hblank | hreads
  · rw [hblank]
    exact .nil
  · have htrim := Spare.header hreads (fun hm => hone ((infix_trimList line).mem hm)) .nil
    rwa [List.append_nil] at htrim

/-- **A text all of whose lines are blank or headers has no code in it.** -/
theorem of_lines {cs : List Char}
    (h : ∀ line ∈ linesList cs, trimList line = [] ∨ ReadsAsHeader (trimList line)) :
    Spare cs := by
  by_cases hone : '\n' ∈ cs
  · obtain ⟨line, rest, rfl, hline⟩ := List.eq_append_cons_of_mem hone
    rw [linesList_append _ hline, List.forall_mem_cons,
      trimList_eq_of_trimEndList (trimEndList_dropReturn line)] at h
    exact (of_line hline h.1).append (.blank (by decide) (of_lines h.2))
  · by_cases hnil : cs = []
    · rw [hnil]
      exact .nil
    · have hlines : linesList cs = [cs] := by
        have hfrom := linesFrom_append cs [] [] hone
        rw [List.append_nil, List.append_nil, linesFrom_nil, if_neg (by simpa using hnil),
          List.reverse_reverse] at hfrom
        exact hfrom
      exact of_line hone (h cs (by rw [hlines]; exact List.mem_singleton_self cs))
termination_by cs.length

/-- What comes after the opening line and before the closing fence is all the code there may be. -/
theorem fence_of_afterFirstLine {rest : List Char} (h : Spare (afterFirstLine rest)) :
    Spare (Testsmith.fence ++ rest) := by
  by_cases hone : '\n' ∈ rest
  · obtain ⟨info, more, rfl, hinfo⟩ := List.eq_append_cons_of_mem hone
    rw [afterFirstLine_line more hinfo] at h
    exact .opening hinfo h
  · rw [afterFirstLine, if_neg (by simpa using hone)] at h
    exact .fence h

theorem of_beforeEnd? {cs : List Char} (h : Spare ((beforeEnd? Testsmith.fence cs).getD cs)) :
    Spare cs := by
  cases hend : beforeEnd? Testsmith.fence cs with
  | none => rwa [hend, Option.getD_none] at h
  | some front =>
    rw [hend, Option.getD_some] at h
    rw [beforeEnd?_eq_some_iff.mp hend]
    have hclosing := Spare.fence .nil
    rw [List.append_nil] at hclosing
    exact h.append hclosing

end Spare

/-- Of a text with an empty body, every line is blank or a header. -/
theorem line_of_bodyList_eq_nil {cs : List Char} (h : bodyList cs = []) {line : List Char}
    (hline : line ∈ linesList cs) : trimList line = [] ∨ ReadsAsHeader (trimList line) := by
  rw [or_iff_not_imp_right]
  intro hreads
  rw [bodyList_eq, trimList_eq_nil_iff] at h
  rw [trimList_eq_nil_iff]
  intro c hc
  have hbody : line ∈ bodyOf (linesList cs) :=
    List.mem_filter.mpr ⟨hline, decide_eq_true (of_eq_body_iff.mpr hreads)⟩
  exact h c (List.mem_flatMap.mpr ⟨line, hbody, List.mem_append_left _ hc⟩)

/-- **A reply of which nothing is left without its fences and headers has no code in it.** -/
theorem spare_of_bodyList_eq_nil {cs : List Char} (h : bodyList (stripFencesList cs) = []) :
    Spare cs := by
  refine Spare.of_trimList ?_
  rw [stripFencesList] at h
  cases hstart : afterStart? fence (trimList cs) with
  | none =>
    rw [hstart] at h
    exact Spare.of_lines fun line hline => line_of_bodyList_eq_nil h hline
  | some rest =>
    rw [hstart] at h
    dsimp only at h
    rw [bodyList_trimList] at h
    rw [afterStart?_eq_some_iff.mp hstart]
    have hbody := Spare.of_lines fun line hline => line_of_bodyList_eq_nil h hline
    exact Spare.fence_of_afterFirstLine (Spare.of_trimEndList (Spare.of_beforeEnd? hbody))

/-- A reply whose code has no body is overlooked, unless it has no code at all. -/
theorem overlooked_of_body_eq {text : String} (hstrip : stripFences text ≠ "")
    (h : (splitGenerated (stripFences text)).2 = "") : Overlooked text := by
  refine ⟨Or.inl (spare_of_bodyList_eq_nil ?_), hstrip⟩
  have hbody := congrArg String.toList h
  rwa [splitGenerated, stripFences, String.toList_ofList, String.toList_ofList] at hbody

end Testsmith
