/-
# Words in a text

A word that occurs in a text put together from parts occurs in one of the parts, as long as a
character that the word does not have stands between them.

Key theorems: `occursIn_iff`, `infix_append_separator`, `infix_append_foreign`.
-/
import Testsmith.Text.Lines

namespace Testsmith.Text

theorem occursIn_iff {word : List Char} : ∀ {cs : List Char}, occursIn word cs = true ↔ word <:+: cs
  | [] => by rw [occursIn, List.isEmpty_iff, List.infix_nil]
  | c :: cs => by
    rw [occursIn, Bool.or_eq_true, List.isPrefixOf_iff_prefix, occursIn_iff, List.infix_cons_iff]

/-- A word does not reach over a character that it does not have. -/
theorem infix_append_separator {word left right : List Char} {separator : Char}
    (h : separator ∉ word) :
    word <:+: left ++ separator :: right ↔ word <:+: left ∨ word <:+: right := by
  constructor
  · rintro ⟨before, after, hcut⟩
    rcases List.append_eq_append_iff.mp hcut with ⟨rest, hleft, -⟩ | ⟨rest, hword, hright⟩
    · exact Or.inl ⟨before, rest, hleft.symm⟩
    · -- the word ends behind the separator, or right before it
      cases rest with
      | nil => exact Or.inl ⟨before, [], by simpa using hword⟩
      | cons d rest =>
        rw [List.cons_append, List.cons.injEq] at hright
        obtain ⟨rfl, hright⟩ := hright
        rcases List.append_eq_append_iff.mp hword with ⟨more, -, hword⟩ | ⟨more, -, hmore⟩
        · exact absurd (by rw [hword]; simp) h
        · cases more with
          | nil => exact absurd (by rw [← List.nil_append word, ← hmore]; simp) h
          | cons e more =>
            rw [List.cons_append, List.cons.injEq] at hmore
            exact Or.inr ⟨more, after, by rw [hright, hmore.2]⟩
  · rintro (hleft | hright)
    · exact hleft.trans (List.prefix_append left _).isInfix
    · exact hright.trans ((List.suffix_cons separator right).trans (List.suffix_append _ _)).isInfix

/-- A word does not begin with a character that it does not begin with. -/
theorem infix_cons_of_head {word cs : List Char} {c : Char} (hne : word ≠ [])
    (h : word.head? ≠ some c) : word <:+: c :: cs ↔ word <:+: cs := by
  rw [List.infix_cons_iff, or_iff_right]
  rintro ⟨rest, hcut⟩
  obtain ⟨d, ds, rfl⟩ := List.exists_cons_of_ne_nil hne
  rw [List.cons_append, List.cons.injEq] at hcut
  exact h (congrArg some hcut.1)

/-- A word occurs before characters that it does not have, or not at all. -/
theorem infix_append_foreign {word : List Char} : ∀ {left right : List Char},
    (∀ c ∈ right, c ∉ word) → (word <:+: left ++ right ↔ word <:+: left)
  | left, [], _ => by rw [List.append_nil]
  | left, c :: right, h => by
    rw [List.forall_mem_cons] at h
    have ih : word <:+: [] ++ right ↔ word <:+: [] := infix_append_foreign h.2
    rw [List.nil_append] at ih
    rw [infix_append_separator h.1, ih, List.infix_nil, or_iff_left_iff_imp]
    rintro rfl
    exact List.nil_infix

end Testsmith.Text
