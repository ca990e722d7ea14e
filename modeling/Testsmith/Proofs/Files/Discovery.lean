/-
# The files that are found

Paths are compared component by component: first by kind, names last, and then by name. This is a
total order, so that the files that are found, sorted and without those equal to the one before, are
in strictly increasing order of their paths.

Key theorems: `Path.compare_eq_lex`, `Path.compare_eq_iff`, `mem_components_dropRepeats`,
`components_eq_of_ordered`, `pairwise_discover`, `hasFile_of_mem_discover`, `discover_of_ordered`.
-/
import Testsmith.Discovery

namespace Testsmith

/-! ### The order of paths -/

namespace Path

/-- The place of the kind in the order. -/
def Component.rank : Component → Nat
  | root => 0
  | here => 1
  | up => 2
  | name _ => 3

theorem Component.compare_eq_lex (a b : Component) :
    a.compare b = compareLex (compareOn rank) (compareOn text) a b := by
  cases a <;> cases b <;> rfl

theorem compareComponents_eq_lex : ∀ as bs : List Component,
    compareComponents as bs =
      List.compareLex (compareLex (compareOn Component.rank) (compareOn Component.text)) as bs
  | [], [] => rfl
  | [], _ :: _ => rfl
  | _ :: _, [] => rfl
  | a :: as, b :: bs => by
    rw [compareComponents, List.compareLex_cons_cons, Component.compare_eq_lex,
      compareComponents_eq_lex as bs]

theorem compare_eq_lex (p q : Path) :
    p.compare q = List.compareLex (compareLex (compareOn Component.rank) (compareOn Component.text))
      p.components q.components :=
  compareComponents_eq_lex p.components q.components

instance : Std.TransCmp Path.compare where
  eq_swap {p q} := by
    rw [compare_eq_lex, compare_eq_lex]
    exact Std.OrientedCmp.eq_swap
  isLE_trans {p q r} hpq hqr := by
    rw [compare_eq_lex] at *
    exact Std.TransCmp.isLE_trans hpq hqr

theorem Component.compare_eq_iff {a b : Component} : a.compare b = .eq ↔ a = b := by
  cases a <;> cases b <;> simp [Component.compare]

theorem compareComponents_eq_iff : ∀ {as bs : List Component},
    compareComponents as bs = .eq ↔ as = bs
  | [], [] => by simp [compareComponents]
  | [], _ :: _ => by simp [compareComponents]
  | _ :: _, [] => by simp [compareComponents]
  | a :: as, b :: bs => by
    rw [compareComponents, Ordering.then_eq_eq, Component.compare_eq_iff, compareComponents_eq_iff,
      List.cons.injEq]

/-- Paths are equal, as paths, if their components are. -/
theorem compare_eq_iff {p q : Path} : p.compare q = .eq ↔ p.components = q.components :=
  compareComponents_eq_iff

theorem isLE_total (p q : Path) : (p.compare q).isLE ∨ (q.compare p).isLE := by
  cases hpq : p.compare q with
  | lt => exact Or.inl rfl
  | eq => exact Or.inl rfl
  | gt =>
    right
    rw [Std.OrientedCmp.gt_iff_lt.mp hpq]
    rfl

end Path

/-! ### Sorted, and each once -/

theorem pairwise_mergeSort (files : List Path) :
    (files.mergeSort fun p q => p.compare q != .gt).Pairwise fun p q => (p.compare q).isLE := by
  have hle (p q : Path) : (p.compare q != .gt) = (p.compare q).isLE := by
    cases p.compare q <;> rfl
  simp only [hle]
  refine List.pairwise_mergeSort (fun p q r => Std.TransCmp.isLE_trans) (fun p q => ?_) files
  rw [Bool.or_eq_true]
  exact Path.isLE_total p q

theorem mem_of_mem_dropRepeats {f : Path} {files : List Path} (h : f ∈ dropRepeats files) :
    f ∈ files := by
  fun_induction dropRepeats files with
  | case1 => exact h
  | case2 p => exact h
  | case3 p q ps _ ih =>
    rcases List.mem_cons.mp (ih h) with rfl | h
    · exact List.mem_cons_self
    · exact List.mem_cons_of_mem _ (List.mem_cons_of_mem _ h)
  | case4 p q ps _ ih =>
    rcases List.mem_cons.mp h with rfl | h
    · exact List.mem_cons_self
    · exact List.mem_cons_of_mem _ (ih h)

theorem pairwise_dropRepeats {files : List Path}
    (h : files.Pairwise fun p q => (p.compare q).isLE) :
    (dropRepeats files).Pairwise fun p q => p.compare q = .lt := by
  fun_induction dropRepeats files with
  | case1 => exact List.Pairwise.nil
  | case2 p => exact List.pairwise_singleton _ p
  | case3 p q ps _ ih =>
    exact ih (h.sublist ((List.sublist_cons_self q ps).cons_cons p))
  | case4 p q ps hne ih =>
    obtain ⟨hp, hq⟩ := List.pairwise_cons.mp h
    have hlt : p.compare q = .lt :=
      (Ordering.isLE_iff_eq_lt_or_eq_eq.mp (hp q List.mem_cons_self)).resolve_right hne
    refine List.pairwise_cons.mpr ⟨fun x hx => ?_, ih hq⟩
    rcases List.mem_cons.mp (mem_of_mem_dropRepeats hx) with rfl | hx
    · exact hlt
    · exact Std.TransCmp.lt_of_lt_of_isLE hlt ((List.pairwise_cons.mp hq).1 x hx)

theorem dropRepeats_of_ordered {files : List Path}
    (h : files.Pairwise fun p q => p.compare q = .lt) : dropRepeats files = files := by
  fun_induction dropRepeats files with
  | case1 => rfl
  | case2 p => rfl
  | case3 p q ps heq _ =>
    have hlt := List.rel_of_pairwise_cons h List.mem_cons_self
    rw [heq] at hlt
    cases hlt
  | case4 p q ps _ ih => rw [ih (List.Pairwise.of_cons h)]

/-- Of paths that are equal to each other one stays. -/
theorem exists_mem_dropRepeats (files : List Path) :
    ∀ f ∈ files, ∃ g ∈ dropRepeats files, g.components = f.components := by
  fun_induction dropRepeats files with
  | case1 => exact fun f h => absurd h List.not_mem_nil
  | case2 p => exact fun f h => ⟨f, h, rfl⟩
  | case3 p q ps heq ih =>
    intro f h
    rcases List.mem_cons.mp h with rfl | h
    · exact ih f List.mem_cons_self
    rcases List.mem_cons.mp h with rfl | h
    · -- the one that is dropped has the components of the one before it
      rw [← Path.compare_eq_iff.mp heq]
      exact ih p List.mem_cons_self
    · exact ih f (List.mem_cons_of_mem _ h)
  | case4 p q ps hne ih =>
    intro f h
    rcases List.mem_cons.mp h with rfl | h
    · exact ⟨_, List.mem_cons_self, rfl⟩
    · obtain ⟨g, hg, hgf⟩ := ih f h
      exact ⟨g, List.mem_cons_of_mem _ hg, hgf⟩

/-- Sorting and dropping repetitions keeps the set of paths. -/
theorem mem_components_dropRepeats {files : List Path} {cs : List Path.Component} :
    cs ∈ (dropRepeats (files.mergeSort fun p q => p.compare q != .gt)).map Path.components ↔
      cs ∈ files.map Path.components := by
  constructor
  · intro h
    obtain ⟨f, hf, rfl⟩ := List.mem_map.mp h
    exact List.mem_map_of_mem (List.mem_mergeSort.mp (mem_of_mem_dropRepeats hf))
  · intro h
    obtain ⟨f, hf, rfl⟩ := List.mem_map.mp h
    obtain ⟨g, hg, hgf⟩ := exists_mem_dropRepeats _ f (List.mem_mergeSort.mpr hf)
    exact List.mem_map.mpr ⟨g, hg, hgf⟩

/-- Paths in strictly increasing order are given by the set of their components. -/
theorem components_eq_of_ordered {ps qs : List Path}
    (hp : ps.Pairwise fun p q => p.compare q = .lt) (hq : qs.Pairwise fun p q => p.compare q = .lt)
    (h : ∀ cs, cs ∈ ps.map Path.components ↔ cs ∈ qs.map Path.components) :
    ps.map Path.components = qs.map Path.components := by
  have sorted {ps : List Path} (hp : ps.Pairwise fun p q => p.compare q = .lt) :
      (ps.map Path.components).Pairwise fun as bs => Path.compareComponents as bs = .lt :=
    List.pairwise_map.mpr hp
  have nodup {ps : List Path} (hp : ps.Pairwise fun p q => p.compare q = .lt) :
      (ps.map Path.components).Nodup := by
    refine (sorted hp).imp fun {as bs} hlt heq => ?_
    rw [Path.compareComponents_eq_iff.mpr heq] at hlt
    cases hlt
  refine ((List.perm_ext_iff_of_nodup (nodup hp) (nodup hq)).mpr h).eq_of_pairwise
    (fun as bs ha hb hab hba => ?_) (sorted hp) (sorted hq)
  obtain ⟨p, -, rfl⟩ := List.mem_map.mp ha
  obtain ⟨q, -, rfl⟩ := List.mem_map.mp hb
  have hlt : p.compare q = .lt := hab
  have hgt : q.compare p = .lt := hba
  rw [Std.OrientedCmp.gt_iff_lt.mpr hgt] at hlt
  cases hlt

/-! ### What is found -/

/-- **Files are found in strictly increasing order of their paths.** -/
theorem pairwise_discover (t : FileTree) (root : Path) (included excluded : List String) :
    (discover t root included excluded).Pairwise fun p q => p.compare q = .lt :=
  pairwise_dropRepeats (pairwise_mergeSort _)

theorem hasFile_of_mem_discover {t : FileTree} {root f : Path} {included excluded : List String}
    (h : f ∈ discover t root included excluded) : t.hasFile f = true := by
  have hfound := List.mem_mergeSort.mp (mem_of_mem_dropRepeats h)
  have hboth := (List.mem_filter.mp hfound).2
  rw [Bool.and_eq_true] at hboth
  exact hboth.1

/-- Files that are found in order, each once, stay in it. -/
theorem discover_of_ordered {t : FileTree} {root : Path} {included excluded : List String}
    {files : List Path}
    (hfound : (included.flatMap (matchesBelow t root)).filter (fun p => t.hasFile p &&
      !isExcluded root (excluded.filterMap fun e => (Glob.Pattern.parse e).toOption) p) = files)
    (hordered : files.Pairwise fun p q => p.compare q = .lt) :
    discover t root included excluded = files := by
  have hsorted : files.Pairwise fun p q => (p.compare q != .gt) = true :=
    hordered.imp fun {p q} hlt => by rw [hlt]; rfl
  rw [discover, hfound, List.mergeSort_of_pairwise hsorted, dropRepeats_of_ordered hordered]

end Testsmith
