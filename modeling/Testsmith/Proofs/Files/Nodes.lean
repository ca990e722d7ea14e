/-
# What is where

A tree of files is known by what it has at each location: two trees are the same when they agree
everywhere (`Same`), in whatever order their entries are listed. In a tree that is a tree everything
is in a directory (`WellFormed`), so that whatever has something below it is one.

Key definitions: `Same`, `WellFormed`.
Key theorems: `node?_put_of_ne`, `node?_erase_of_ne`, `any_isChild`, `WellFormed.directory_above`,
`WellFormed.put`.
-/
import Testsmith.FileTree

namespace Testsmith
namespace FileTree

/-- The trees have the same at every location. -/
def Same (t u : FileTree) : Prop := ∀ l, t.node? l = u.node? l

/-- Everything is in a directory. -/
def WellFormed (t : FileTree) : Prop :=
  ∀ l n, t.node? l = some n → t.node? l.dropLast = some .directory

theorem Same.symm {t u : FileTree} (h : Same t u) : Same u t := fun l => (h l).symm

theorem Same.trans {t u v : FileTree} (h : Same t u) (h' : Same u v) : Same t v :=
  fun l => (h l).trans (h' l)

/-! ### One location -/

@[simp] theorem node?_nil (t : FileTree) : t.node? [] = some .directory := rfl

theorem node?_of_ne_nil (t : FileTree) {l : Location} (h : l ≠ []) :
    t.node? l = t.entries.lookup l := by
  rw [node?, if_neg (by simpa using h)]

theorem lookup_filter_ne {l m : Location} (h : m ≠ l) : ∀ es : List (Location × FileNode),
    (es.filter (·.1 ≠ l)).lookup m = es.lookup m
  | [] => rfl
  | (k, n) :: es => by
    have ih := lookup_filter_ne h es
    by_cases hk : k = l
    · have hm : (m == k) = false := by simpa [hk] using h
      rw [List.filter_cons_of_neg (by simp [hk]), ih, List.lookup_cons, hm]
    · rw [List.filter_cons_of_pos (by simpa using hk), List.lookup_cons, List.lookup_cons, ih]

theorem lookup_filter_self (l : Location) (es : List (Location × FileNode)) :
    (es.filter (·.1 ≠ l)).lookup l = none := by
  rw [List.lookup_eq_none_iff]
  intro e he
  have hk : e.1 ≠ l := by simpa using (List.mem_filter.mp he).2
  exact bne_iff_ne.mpr (Ne.symm hk)

theorem node?_erase_of_ne (t : FileTree) {l m : Location} (h : m ≠ l) :
    (t.erase l).node? m = t.node? m := by
  by_cases hm : m = []
  · rw [hm, node?_nil, node?_nil]
  · rw [node?_of_ne_nil _ hm, node?_of_ne_nil _ hm, erase, lookup_filter_ne h]

theorem node?_erase_self (t : FileTree) {l : Location} (h : l ≠ []) :
    (t.erase l).node? l = none := by
  rw [node?_of_ne_nil _ h, erase, lookup_filter_self]

theorem node?_put_of_ne (t : FileTree) {l m : Location} (n : FileNode) (h : m ≠ l) :
    (t.put l n).node? m = t.node? m := by
  rw [← node?_erase_of_ne t h]
  by_cases hm : m = []
  · rw [hm, node?_nil, node?_nil]
  · have hb : (m == l) = false := by simpa using h
    rw [node?_of_ne_nil _ hm, node?_of_ne_nil _ hm, put, List.lookup_cons, hb]

theorem node?_put_self (t : FileTree) {l : Location} (n : FileNode) (h : l ≠ []) :
    (t.put l n).node? l = some n := by
  rw [node?_of_ne_nil _ h, put, List.lookup_cons, beq_self_eq_true]

/-- A location has entries right below it iff something is there. -/
theorem any_isChild (t : FileTree) (l : Location) :
    t.entries.any (isChild l) = true ↔ ∃ name, t.node? (l ++ [name]) ≠ none := by
  rw [List.any_eq_true]
  constructor
  · rintro ⟨⟨k, n⟩, he, hk⟩
    simp only [isChild, Bool.and_eq_true, Bool.not_eq_true', List.isEmpty_eq_false_iff,
      beq_iff_eq] at hk
    obtain ⟨hne, hl⟩ := hk
    refine ⟨k.getLast hne, ?_⟩
    rw [← hl, List.dropLast_concat_getLast, node?_of_ne_nil _ hne]
    intro hnone
    have hself : (k != k) = true := List.lookup_eq_none_iff.mp hnone _ he
    simp at hself
  · rintro ⟨name, h⟩
    rw [node?_of_ne_nil _ (by simp)] at h
    obtain ⟨n, hn⟩ := Option.ne_none_iff_exists'.mp h
    refine ⟨(l ++ [name], n), ?_, by simp [isChild]⟩
    obtain ⟨as, bs, heq, -⟩ := List.lookup_eq_some_iff.mp hn
    rw [heq]
    simp

/-! ### Trees in which everything is in a directory -/

theorem WellFormed.of_entries {t : FileTree}
    (h : ∀ e ∈ t.entries, t.node? e.1.dropLast = some .directory) : t.WellFormed := by
  intro l n hn
  by_cases hl : l = []
  · rw [hl]
    rfl
  · rw [node?_of_ne_nil _ hl] at hn
    obtain ⟨as, bs, heq, -⟩ := List.lookup_eq_some_iff.mp hn
    refine h (l, n) ?_
    rw [heq]
    exact List.mem_append_right _ List.mem_cons_self

theorem WellFormed.directory_of_concat {t : FileTree} (ht : t.WellFormed) {l : Location}
    {name : String} (h : t.node? (l ++ [name]) ≠ none) : t.node? l = some .directory := by
  obtain ⟨n, hn⟩ := Option.ne_none_iff_exists'.mp h
  have := ht _ n hn
  rwa [List.dropLast_concat] at this

/-- Whatever has something below it is a directory. -/
theorem WellFormed.directory_above {t : FileTree} (ht : t.WellFormed) (l : Location) :
    ∀ ms : Location, ms ≠ [] → t.node? (l ++ ms) ≠ none → t.node? l = some .directory
  | [], hne, _ => absurd rfl hne
  | [_], _, h => ht.directory_of_concat h
  | m :: m' :: ms, _, h => by
    have hl : l ++ m :: m' :: ms = (l ++ [m]) ++ (m' :: ms) := by simp
    rw [hl] at h
    have hm := ht.directory_above (l ++ [m]) (m' :: ms) (by simp) h
    exact ht.directory_of_concat (by rw [hm]; simp)

/-- An entry put into a directory, in place of nothing or a file, leaves a tree a tree. -/
theorem WellFormed.put {t : FileTree} (ht : t.WellFormed) {l : Location} (n : FileNode)
    (habove : t.node? l.dropLast = some .directory) (hl : t.node? l ≠ some .directory) :
    (t.put l n).WellFormed := by
  have hne : l ≠ [] := by
    rintro rfl
    exact hl rfl
  intro m k hm
  have hdrop : m.dropLast ≠ l ∨ m = [] := by
    by_cases hmn : m = []
    · exact Or.inr hmn
    · left
      rintro rfl
      have hml : m ≠ m.dropLast := by
        intro h
        have hlen := congrArg List.length h
        have hpos := List.length_pos_iff.mpr hmn
        rw [List.length_dropLast] at hlen
        omega
      rw [node?_put_of_ne _ _ hml] at hm
      exact hl (ht m k hm)
  rcases hdrop with hdrop | rfl
  · rw [node?_put_of_ne _ _ hdrop]
    by_cases hml : m = l
    · rw [hml]
      exact habove
    · rw [node?_put_of_ne _ _ hml] at hm
      exact ht m k hm
  · rfl

/-- A tree stays a tree without an entry that has nothing below it. -/
theorem WellFormed.erase {t : FileTree} (ht : t.WellFormed) {l : Location}
    (hl : ∀ name, t.node? (l ++ [name]) = none) : (t.erase l).WellFormed := by
  intro m n hm
  by_cases hnil : m = []
  · rw [hnil]
    rfl
  have hml : m ≠ l := by
    rintro rfl
    rw [node?_erase_self t hnil] at hm
    cases hm
  have hdrop : m.dropLast ≠ l := by
    rintro rfl
    have hnone := hl (m.getLast hnil)
    rw [List.dropLast_concat_getLast] at hnone
    rw [node?_erase_of_ne t hml, hnone] at hm
    cases hm
  rw [node?_erase_of_ne t hml] at hm
  rw [node?_erase_of_ne t hdrop]
  exact ht m n hm

/-- There is nothing below a file. -/
theorem WellFormed.below_file {t : FileTree} (ht : t.WellFormed) {l : Location}
    {content : ByteArray} (hl : t.node? l = some (.file content)) (name : String) :
    t.node? (l ++ [name]) = none := by
  cases hsome : t.node? (l ++ [name]) with
  | none => rfl
  | some n =>
    rw [ht.directory_of_concat (by rw [hsome]; simp)] at hl
    cases hl

/-- There is nothing below nothing. -/
theorem WellFormed.below_none {t : FileTree} (ht : t.WellFormed) {l m : Location}
    (hl : t.node? l = none) (hm : l <+: m) : t.node? m = none := by
  obtain ⟨rest, rfl⟩ := hm
  by_cases hnil : rest = []
  · rw [hnil, List.append_nil, hl]
  · cases hsome : t.node? (l ++ rest) with
    | none => rfl
    | some n =>
      rw [ht.directory_above l rest hnil (by rw [hsome]; simp)] at hl
      cases hl

theorem node?_prune (t : FileTree) (l m : Location) (h : m ≠ []) :
    (t.prune l).node? m = if l <+: m then none else t.node? m := by
  rw [node?_of_ne_nil _ h, node?_of_ne_nil _ h, prune]
  induction t.entries with
  | nil => simp
  | cons e es ih =>
    by_cases hl : l <+: e.1
    · rw [List.filter_cons_of_neg (by simpa using hl), ih, List.lookup_cons]
      by_cases hm : m = e.1
      · rw [hm, if_pos hl, if_pos hl]
      · have hb : (m == e.1) = false := by simpa using hm
        rw [hb]
    · have hkeep : l.isPrefixOf e.1 = false :=
        Bool.eq_false_iff.mpr fun h => hl (List.isPrefixOf_iff_prefix.mp h)
      rw [List.filter_cons_of_pos (by simp [hkeep]), List.lookup_cons, List.lookup_cons, ih]
      by_cases hm : m = e.1
      · simp [hm, hl]
      · have hb : (m == e.1) = false := by simpa using hm
        rw [hb]

/-- A tree stays a tree without what is at a location or below it. -/
theorem WellFormed.prune {t : FileTree} (ht : t.WellFormed) (l : Location) :
    (t.prune l).WellFormed := by
  intro m n hm
  by_cases hnil : m.dropLast = []
  · rw [hnil]
    rfl
  · have hne : m ≠ [] := by
      rintro rfl
      exact hnil rfl
    rw [node?_prune t l m hne] at hm
    split at hm
    · cases hm
    · rename_i hl
      rw [node?_prune t l _ hnil, if_neg fun h => hl (h.trans (List.dropLast_prefix m))]
      exact ht m n hm

end FileTree
end Testsmith
