/-
# Keywords that stand clear

A keyword counts where it is no part of a longer identifier. Occurrences are looked for from left to
right, and the search goes on behind each one that is found, clear or not. Nothing is missed by
that, as long as no end of the keyword is a beginning of it (`Unbordered`): then no occurrence
begins inside another one. All keywords of the table are such.

Key definitions: `StandsClear`, `Unbordered`.
Key theorems: `occursClear_iff`, `containsKeyword_iff_of_mem`.
-/
import Mathlib.Data.List.Infix
import Testsmith.Imports.Keyword

namespace Testsmith

open Text

/-- The keyword occurs somewhere in the text. If it begins with a character of an identifier, there
is none before it, and if it ends with one, there is none after it. -/
def StandsClear (keyword text : List Char) : Prop :=
  ∃ before after, text = before ++ keyword ++ after ∧
    (∀ c ∈ keyword.head?, isIdentifierChar c = true →
      ∀ b ∈ before.getLast?, isIdentifierChar b = false) ∧
    ∀ c ∈ keyword.getLast?, isIdentifierChar c = true →
      ∀ a ∈ after.head?, isIdentifierChar a = false

/-- No end of the word is a beginning of it, but for the whole word. -/
def Unbordered (word : List Char) : Prop :=
  ∀ n < word.length, 0 < n → ¬word.drop n <+: word

instance (word : List Char) : Decidable (Unbordered word) :=
  inferInstanceAs (Decidable (∀ n < word.length, 0 < n → ¬word.drop n <+: word))

/-- The keyword begins the text and is clear there, with `previous` before the text. -/
def ClearAt (keyword : List Char) (previous : Option Char) (text : List Char) : Prop :=
  ∃ after, text = keyword ++ after ∧
    startsClear keyword previous = true ∧ endsClear keyword after = true

/-- The keyword is clear somewhere in the text, with `previous` before the text. -/
def ClearIn (keyword : List Char) (previous : Option Char) (text : List Char) : Prop :=
  ∃ before after, text = before ++ (keyword ++ after) ∧
    startsClear keyword (before.getLast?.or previous) = true ∧ endsClear keyword after = true

variable {keyword : List Char} {previous : Option Char}

/-! ### Where a keyword is clear -/

theorem not_any_or_not_any_iff {p : Char → Bool} {x y : Option Char} :
    (!x.any p || !y.any p) = true ↔ ∀ c ∈ x, p c = true → ∀ d ∈ y, p d = false := by
  cases x with
  | none => simp
  | some c =>
    cases y with
    | none => simp
    | some d => cases hc : p c <;> simp [hc]

theorem startsClear_iff : startsClear keyword previous = true ↔
    ∀ c ∈ keyword.head?, isIdentifierChar c = true →
      ∀ b ∈ previous, isIdentifierChar b = false :=
  not_any_or_not_any_iff

theorem endsClear_iff {after : List Char} : endsClear keyword after = true ↔
    ∀ c ∈ keyword.getLast?, isIdentifierChar c = true →
      ∀ a ∈ after.head?, isIdentifierChar a = false :=
  not_any_or_not_any_iff

theorem clearIn_none_iff {text : List Char} :
    ClearIn keyword none text ↔ StandsClear keyword text := by
  simp only [ClearIn, StandsClear, Option.or_none, startsClear_iff, endsClear_iff,
    List.append_assoc]

theorem not_clearIn_nil (hne : keyword ≠ []) : ¬ClearIn keyword previous [] := by
  rintro ⟨before, after, htext, -⟩
  exact hne (List.append_eq_nil_iff.mp (List.append_eq_nil_iff.mp htext.symm).2).1

/-- A keyword is clear at the beginning of a text or after its first character. -/
theorem clearIn_cons_iff {c : Char} {cs : List Char} : ClearIn keyword previous (c :: cs) ↔
    ClearAt keyword previous (c :: cs) ∨ ClearIn keyword (some c) cs := by
  constructor
  · rintro ⟨before, after, htext, hstart, hend⟩
    cases before with
    | nil => exact Or.inl ⟨after, htext, hstart, hend⟩
    | cons b before =>
      rw [List.cons_append, List.cons.injEq] at htext
      obtain ⟨rfl, rfl⟩ := htext
      refine Or.inr ⟨before, after, rfl, ?_, hend⟩
      rwa [List.getLast?_cons, Option.some_or, ← Option.or_some] at hstart
  · rintro (⟨after, htext, hstart, hend⟩ | ⟨before, after, rfl, hstart, hend⟩)
    · exact ⟨[], after, htext, hstart, hend⟩
    · refine ⟨c :: before, after, rfl, ?_, hend⟩
      rwa [List.getLast?_cons, Option.some_or, ← Option.or_some]

/-! ### Searching from left to right -/

/-- After a character of the text, what is left of the word is shorter by one as well. -/
theorem drop_succ_prefix {word cs : List Char} {c : Char} {n : Nat} (h : word.drop n <+: c :: cs) :
    word.drop (n + 1) <+: cs := by
  have htail := h.drop 1
  rwa [List.drop_drop, List.drop_succ_cons, List.drop_zero] at htail

/-- Inside an occurrence of a word without a border no other one begins. -/
theorem not_prefix_of_drop_prefix {word text : List Char} {n : Nat} (hword : Unbordered word)
    (hpos : 0 < n) (hlt : n < word.length) (h : word.drop n <+: text) : ¬word <+: text := by
  intro hbegins
  have hshort : (word.drop n).length ≤ word.length := by simp
  exact hword n hlt hpos (List.prefix_of_prefix_length_le h hbegins hshort)

/-- **The search finds a keyword without a border exactly if it is clear somewhere.** The characters
still to be passed over are the end of the occurrence that was found last. -/
theorem occursClear_iff (hne : keyword ≠ []) (hword : Unbordered keyword) :
    ∀ {text : List Char} {skip : Nat} {previous : Option Char}, skip < keyword.length →
      keyword.drop (keyword.length - skip) <+: text →
      (occursClear keyword skip previous text = true ↔ ClearIn keyword previous text)
  | [], skip, previous, _, _ => by
    rw [occursClear]
    exact iff_of_false Bool.false_ne_true (not_clearIn_nil hne)
  | c :: cs, skip + 1, previous, hlt, hrest => by
    have hat : ¬ClearAt keyword previous (c :: cs) := by
      rintro ⟨after, htext, -⟩
      exact not_prefix_of_drop_prefix hword (by omega) (by omega) hrest ⟨after, htext.symm⟩
    have hnext : keyword.drop (keyword.length - skip) <+: cs := by
      have hlength : keyword.length - skip = keyword.length - (skip + 1) + 1 := by omega
      rw [hlength]
      exact drop_succ_prefix hrest
    rw [occursClear, clearIn_cons_iff, or_iff_right hat]
    exact occursClear_iff hne hword (by omega) hnext
  | c :: cs, 0, previous, hlt, _ => by
    rw [occursClear, clearIn_cons_iff]
    split
    · rename_i after hafter
      rw [afterStart?_eq_some_iff] at hafter
      have hat : (startsClear keyword previous && endsClear keyword after) = true ↔
          ClearAt keyword previous (c :: cs) := by
        rw [Bool.and_eq_true, ClearAt, hafter]
        simp
      have hnext : keyword.drop (keyword.length - (keyword.length - 1)) <+: cs := by
        have hlength : keyword.length - (keyword.length - 1) = 0 + 1 := by omega
        rw [hlength]
        exact drop_succ_prefix (n := 0) ⟨after, hafter.symm⟩
      rw [Bool.or_eq_true, hat, occursClear_iff hne hword (by omega) hnext]
    · rename_i hnone
      have hat : ¬ClearAt keyword previous (c :: cs) := by
        rintro ⟨after, htext, -⟩
        rw [afterStart?_eq_some_iff.mpr htext] at hnone
        cases hnone
      rw [or_iff_right hat]
      exact occursClear_iff hne hword hlt (by simp)

/-- Of a word with a border one is missed: here it begins inside the first one, which is glued. -/
example : containsKeyword "xa.a.a" "a.a" = false ∧ StandsClear "a.a".toList "xa.a.a".toList :=
  ⟨by decide +kernel, clearIn_none_iff.mp ⟨"xa.".toList, [], by decide +kernel⟩⟩

/-! ### The keywords of the frameworks -/

theorem unbordered_of_mem {keyword target : String} (h : (keyword, target) ∈ keywordImports) :
    keyword.toList ≠ [] ∧ Unbordered keyword.toList := by
  have hall : ∀ entry ∈ keywordImports, entry.1.toList ≠ [] ∧ Unbordered entry.1.toList := by
    decide +kernel
  exact hall _ h

/-- **No clear occurrence of a keyword is missed**, also where occurrences overlap. -/
theorem containsKeyword_iff_of_mem {keyword target : String}
    (h : (keyword, target) ∈ keywordImports) (text : String) :
    containsKeyword text keyword = true ↔ StandsClear keyword.toList text.toList := by
  obtain ⟨hne, hword⟩ := unbordered_of_mem h
  have hlt : 0 < keyword.toList.length := List.length_pos_iff.mpr hne
  rw [containsKeyword, occursClear_iff hne hword hlt (by simp), clearIn_none_iff]

/-- The first occurrence is the end of an identifier, the second one is clear. In the other text
there is none but the first. -/
theorem standsClear_any_second :
    ("any(", "static org.mockito.ArgumentMatchers.any") ∈ keywordImports ∧
      StandsClear "any(".toList "many(any(1))".toList ∧
        ¬StandsClear "any(".toList "many(1)".toList := by
  have hmem : ("any(", "static org.mockito.ArgumentMatchers.any") ∈ keywordImports := by
    decide +kernel
  exact ⟨hmem, (containsKeyword_iff_of_mem hmem "many(any(1))").mp (by decide +kernel),
    mt (containsKeyword_iff_of_mem hmem "many(1)").mpr (by decide +kernel)⟩

end Testsmith
