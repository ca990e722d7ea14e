/-
# Sets of texts in order

A finite set of strings, held as its members in increasing order of code points, which is also the
order of their UTF-8 bytes. Since the order is part of the type, two sets are equal as soon as they
have the same members.

Key definitions: `StringSet`, `StringSet.insert`, `StringSet.ofList`.
Key theorems: `StringSet.mem_insert`, `StringSet.ext_mem`.
-/

namespace Testsmith

/-- A set of strings, in increasing order. -/
structure StringSet where
  toList : List String
  sorted : toList.Pairwise (· < ·)
  deriving DecidableEq

namespace StringSet

/-- Puts a string in its place in an increasing list, unless it is there. -/
def insertList (x : String) : List String → List String
  | [] => [x]
  | y :: ys => if x < y then x :: y :: ys else if x = y then y :: ys else y :: insertList x ys

theorem mem_insertList {x a : String} {l : List String} :
    a ∈ insertList x l ↔ a = x ∨ a ∈ l := by
  induction l with
  | nil => simp [insertList]
  | cons y ys ih =>
    simp only [insertList]
    split
    · simp
    · split <;> simp_all
      grind

theorem sorted_insertList {x : String} {l : List String} (h : l.Pairwise (· < ·)) :
    (insertList x l).Pairwise (· < ·) := by
  induction l with
  | nil => simp [insertList]
  | cons y ys ih =>
    simp only [insertList]
    rw [List.pairwise_cons] at h
    split
    case isTrue hxy =>
      refine List.pairwise_cons.2 ⟨fun a ha => ?_, List.pairwise_cons.2 h⟩
      rcases List.mem_cons.1 ha with rfl | ha
      · exact hxy
      · exact String.lt_trans hxy (h.1 a ha)
    case isFalse hxy =>
      split
      case isTrue => exact List.pairwise_cons.2 h
      case isFalse hne =>
        refine List.pairwise_cons.2 ⟨fun a ha => ?_, ih h.2⟩
        rcases mem_insertList.1 ha with rfl | ha
        · exact String.not_le.1 fun hle => hne (String.le_antisymm hle (String.not_lt.1 hxy))
        · exact h.1 a ha

def empty : StringSet := ⟨[], List.Pairwise.nil⟩

def insert (x : String) (s : StringSet) : StringSet :=
  ⟨insertList x s.toList, sorted_insertList s.sorted⟩

/-- The set of the members of a list. -/
def ofList (l : List String) : StringSet := l.foldl (fun s x => s.insert x) empty

instance : Membership String StringSet := ⟨fun s x => x ∈ s.toList⟩

instance (x : String) (s : StringSet) : Decidable (x ∈ s) :=
  inferInstanceAs (Decidable (x ∈ s.toList))

instance : EmptyCollection StringSet := ⟨empty⟩

instance : Inhabited StringSet := ⟨empty⟩

/-- The members of either set. -/
def union (s t : StringSet) : StringSet := t.toList.foldl (fun s x => s.insert x) s

/-! ### Laws -/

@[simp] theorem mem_insert {x a : String} {s : StringSet} : a ∈ s.insert x ↔ a = x ∨ a ∈ s :=
  mem_insertList

@[simp] theorem not_mem_empty {a : String} : ¬a ∈ (∅ : StringSet) := List.not_mem_nil

theorem mem_foldl_insert {a : String} {l : List String} {s : StringSet} :
    a ∈ l.foldl (fun s x => s.insert x) s ↔ a ∈ s ∨ a ∈ l := by
  induction l generalizing s with
  | nil => simp
  | cons x xs ih =>
    rw [List.foldl_cons, ih, mem_insert, List.mem_cons]
    grind

@[simp] theorem mem_ofList {a : String} {l : List String} : a ∈ ofList l ↔ a ∈ l := by
  rw [ofList, mem_foldl_insert]
  exact or_iff_right not_mem_empty

@[simp] theorem mem_union {a : String} {s t : StringSet} : a ∈ s.union t ↔ a ∈ s ∨ a ∈ t :=
  mem_foldl_insert

/-- Sets with the same members are equal. -/
theorem ext_mem {s t : StringSet} (h : ∀ a, a ∈ s ↔ a ∈ t) : s = t := by
  obtain ⟨l, hl⟩ := s
  obtain ⟨m, hm⟩ := t
  have hlm : l = m := by
    have asymm : ∀ a b : String, a ∈ l → b ∈ m → a < b → b < a → a = b :=
      fun _ _ _ _ hab hba => absurd hab (String.lt_asymm hba)
    refine List.Perm.eq_of_pairwise asymm hl hm ((List.perm_ext_iff_of_nodup ?_ ?_).2 h)
    · exact hl.imp fun hab => fun he => String.lt_irrefl _ (he ▸ hab)
    · exact hm.imp fun hab => fun he => String.lt_irrefl _ (he ▸ hab)
  subst hlm
  rfl

end StringSet

end Testsmith
