/-
# Words of a text

Words hold no blanks, and words with single spaces between them read back. So to normalize the
blanks of a text a second time changes nothing.

Key theorems: `wordsList_intercalate`, `normalizeBlanks_normalizeBlanks`,
`normalizeBlanks_of_not_blank`, `mem_normalizeBlanks`.
-/
import Testsmith.Text.Lines

namespace Testsmith.Text

/-- A word: some characters, none of them a blank. -/
def IsWord (w : List Char) : Prop := w ≠ [] ∧ ∀ c ∈ w, isBlank c = false

theorem wordsFrom_nil (cur : List Char) :
    wordsFrom cur [] = if cur = [] then [] else [cur.reverse] := by
  cases cur <;> rfl

theorem wordsFrom_cons {c : Char} (cur cs : List Char) (hc : isBlank c = false) :
    wordsFrom cur (c :: cs) = wordsFrom (c :: cur) cs := by
  cases cur <;> simp [wordsFrom, hc]

theorem wordsFrom_cons_blank {c : Char} (cur cs : List Char) (hc : isBlank c = true) :
    wordsFrom cur (c :: cs) = (if cur = [] then [] else [cur.reverse]) ++ wordsFrom [] cs := by
  cases cur <;> simp [wordsFrom, hc]

/-- Characters of one word are taken up into it. -/
theorem wordsFrom_append (w cur cs : List Char) (h : ∀ c ∈ w, isBlank c = false) :
    wordsFrom cur (w ++ cs) = wordsFrom (w.reverse ++ cur) cs := by
  induction w generalizing cur with
  | nil => rfl
  | cons c w ih =>
    rw [List.cons_append, wordsFrom_cons _ _ (h c List.mem_cons_self),
      ih _ fun x hx => h x (List.mem_cons_of_mem _ hx), List.reverse_cons, List.append_assoc]
    rfl

theorem isWord_of_mem_wordsFrom {w : List Char} : ∀ {cs cur : List Char},
    (∀ c ∈ cur, isBlank c = false) → w ∈ wordsFrom cur cs → IsWord w
  | [], cur, hcur, hw => by
    rw [wordsFrom_nil] at hw
    split at hw
    · cases hw
    · rename_i hne
      rw [List.mem_singleton.mp hw]
      exact ⟨by simpa using hne, fun c hc => hcur c (List.mem_reverse.mp hc)⟩
  | c :: cs, cur, hcur, hw => by
    cases hc : isBlank c with
    | false =>
      rw [wordsFrom_cons _ _ hc] at hw
      refine isWord_of_mem_wordsFrom (fun x hx => ?_) hw
      rcases List.mem_cons.mp hx with rfl | hx
      · exact hc
      · exact hcur x hx
    | true =>
      rw [wordsFrom_cons_blank _ _ hc] at hw
      rcases List.mem_append.mp hw with hw | hw
      · rw [← wordsFrom_nil] at hw
        exact isWord_of_mem_wordsFrom hcur hw
      · exact isWord_of_mem_wordsFrom (by simp) hw

theorem isWord_of_mem_wordsList {cs w : List Char} (h : w ∈ wordsList cs) : IsWord w :=
  isWord_of_mem_wordsFrom (by simp) h

/-- Words with spaces between them read back. -/
theorem wordsList_intercalate : ∀ ws : List (List Char), (∀ w ∈ ws, IsWord w) →
    wordsList ([' '].intercalate ws) = ws
  | [], _ => rfl
  | [w], h => by
    have hw := h w List.mem_cons_self
    have := wordsFrom_append w [] [] hw.2
    rw [List.append_nil] at this
    rw [List.intercalate_singleton, wordsList, this, wordsFrom_nil]
    simp [hw.1]
  | w :: v :: ws, h => by
    have hw := h w List.mem_cons_self
    have ih := wordsList_intercalate (v :: ws) fun x hx => h x (List.mem_cons_of_mem _ hx)
    have hr : w.reverse ≠ [] := by simpa using hw.1
    rw [List.intercalate_cons_cons, wordsList, List.append_assoc, wordsFrom_append w [] _ hw.2,
      List.singleton_append, wordsFrom_cons_blank _ _ (by decide)]
    simp only [List.append_nil, hr, if_false, List.reverse_reverse, List.singleton_append]
    rw [← wordsList, ih]

/-- Normalizing twice is normalizing once. -/
theorem normalizeBlanks_normalizeBlanks (cs : List Char) :
    normalizeBlanks (normalizeBlanks cs) = normalizeBlanks cs := by
  rw [normalizeBlanks, normalizeBlanks,
    wordsList_intercalate _ fun w hw => isWord_of_mem_wordsList hw]

/-- In a text without blanks there is nothing to normalize. -/
theorem normalizeBlanks_of_not_blank {w : List Char} (h : ∀ c ∈ w, isBlank c = false) :
    normalizeBlanks w = w := by
  by_cases hw : w = []
  · rw [hw]
    rfl
  · have := wordsList_intercalate [w] fun x hx => by rw [List.mem_singleton.mp hx]; exact ⟨hw, h⟩
    rw [List.intercalate_singleton] at this
    rw [normalizeBlanks, this, List.intercalate_singleton]

/-- What is in a joined text is of a separator or of a part. -/
theorem mem_intercalate {α : Type} {sep : List α} {a : α} : ∀ {ls : List (List α)},
    a ∈ sep.intercalate ls → a ∈ sep ∨ ∃ l ∈ ls, a ∈ l
  | [], h => by cases h
  | [l], h => by
    rw [List.intercalate_singleton] at h
    exact Or.inr ⟨l, List.mem_cons_self, h⟩
  | l :: m :: ls, h => by
    rw [List.intercalate_cons_cons] at h
    rcases List.mem_append.mp h with h | h
    · rcases List.mem_append.mp h with h | h
      · exact Or.inr ⟨l, List.mem_cons_self, h⟩
      · exact Or.inl h
    · exact (mem_intercalate h).imp_right fun ⟨x, hx, ha⟩ => ⟨x, List.mem_cons_of_mem _ hx, ha⟩

/-- A normalized text has no blanks but spaces. -/
theorem mem_normalizeBlanks {cs : List Char} {c : Char} (h : c ∈ normalizeBlanks cs) :
    c = ' ' ∨ isBlank c = false := by
  rcases mem_intercalate h with h | ⟨w, hw, hc⟩
  · exact Or.inl (List.mem_singleton.mp h)
  · exact Or.inr ((isWord_of_mem_wordsList hw).2 c hc)

end Testsmith.Text
