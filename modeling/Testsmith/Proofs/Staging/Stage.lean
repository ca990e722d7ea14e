/-
# Putting a file in its place

What staging a file comes to follows from what was at the place before. A file that is there is
written over (`stage_over`), and one in a new place gets the directories that are not there
(`stage_new`). When a name is too long and something above it is not there, staging fails and leaves
directories behind (`stage_long`).

Key theorems: `stage_over`, `stage_new`, `stage_long`, `removeDirs_missing`,
`spells_of_mem_missing`.
-/
import Testsmith.Proofs.Staging.PutBack

namespace Testsmith
namespace Staged
open FileTree

variable {p : Path} {absolute : Bool} {dirs : List String} {name : String}

/-- Directories that have to be made are on the way to the path, and are not there. -/
theorem spells_of_mem_missing (h : Leads p absolute dirs name) {t : FileTree} {dir : Path}
    (hm : dir ∈ missing t p) :
    ∃ ms, ms <+: dirs ∧ Spells dir ms ∧ t.has dir = false := by
  rw [missing_eq, h.ancestors] at hm
  exact spells_of_mem_takeWhile h.above hm

theorem spells_above (h : Leads p absolute dirs name) (hne : dirs ≠ []) :
    Spells (Path.ofNames absolute dirs) dirs :=
  h.above dirs (List.prefix_refl _) hne

/-- Where the directory is there, none has to be made. -/
theorem missing_there (h : Leads p absolute dirs name) {t : FileTree}
    (hf : t.follow (dirs ++ [name]) = .ok (dirs ++ [name])) : missing t p = [] := by
  obtain ⟨k, hk, hdir, -, heq⟩ := follow_concat_ok (h.spells.downward name (by simp)) hf
  have hkd := follow_ok h.downward_dirs hk
  rw [hkd] at hk hdir
  rw [missing_eq, h.ancestors, takeWhile_dirsOf (not_unmade_directory (spells_above h) hk hdir)]

/-- A file that is there is written over. -/
theorem stage_over (h : Leads p absolute dirs name) {t : FileTree} {old : ByteArray}
    (hr : t.read p = .ok old) (content : ByteArray) :
    stage t p content = (.ok ⟨p, some old, []⟩, t.put (dirs ++ [name]) (.file content)) ∧
      t.locate p = .ok (dirs ++ [name]) ∧ t.node? (dirs ++ [name]) = some (.file old) := by
  have hfind : t.find p = .ok (dirs ++ [name], .file old) := by
    unfold FileTree.read at hr
    split at hr
    · rename_i l c hl
      obtain ⟨rfl, -⟩ := h.spells.find_ok hl
      rw [hl, Except.ok.inj hr]
    · cases hr
    · cases hr
  obtain ⟨-, hl, hf, hn⟩ := h.spells.find_ok hfind
  refine ⟨?_, hl, hn⟩
  have hprevious : previousAt t p = .ok (some old) := by rw [previousAt, hr]
  rw [stage, hprevious, missing_there h hf]
  simp only [place, h.parent?, h.makeDirs_there hf, write_over hl hn]

/-- Putting back a file that was not there, over whatever the trial left of it. -/
theorem putBack_none (created : List Path) (t : FileTree) :
    (⟨p, none, created⟩ : Staged).putBack t = match t.removeFile p with
      | .ok u => (.ok (), removeDirs u created)
      | .error .notFound => (.ok (), removeDirs t created)
      | .error e => (.error e, t) := rfl

/-- When putting back works, the place is free and the directories are removed as far as may be. -/
theorem putBack_none_ok (h : Leads p absolute dirs name) {w y : FileTree} (hw : w.WellFormed)
    {created : List Path} (hback : (⟨p, none, created⟩ : Staged).putBack w = (.ok (), y)) :
    ∃ x : FileTree, x.WellFormed ∧ x.Missing (dirs ++ [name]) ∧
      (∀ m, m ≠ dirs ++ [name] → x.node? m = w.node? m) ∧ y = removeDirs x created := by
  rw [putBack_none] at hback
  cases hremove : w.removeFile p with
  | ok x =>
    simp only [hremove, Prod.mk.injEq, true_and] at hback
    obtain ⟨content, hfollow, hfile⟩ := h.spells.file_of_removeFile hremove
    have hx := h.spells.removeFile_ok hremove
    subst hx
    obtain ⟨hshort, habove⟩ := directory_of_follow h.spells.downward hfollow
    have hkept (m : Location) (hm : m ≠ dirs ++ [name]) :
        (w.erase (dirs ++ [name])).node? m = w.node? m := node?_erase_of_ne w hm
    refine ⟨_, hw.erase (hw.below_file hfile), Or.inr ⟨?_, ?_⟩, hkept, hback.symm⟩
    · exact follow_eq_ok h.spells.downward hshort fun m hm hne =>
        (hkept m hne).trans (habove m hm hne)
    · exact node?_erase_self w (by simp)
  | error e =>
    by_cases he : e = .notFound
    · subst he
      simp only [hremove, Prod.mk.injEq, true_and] at hback
      exact ⟨w, hw, h.spells.missing_of_removeFile hremove, fun _ _ => rfl, hback.symm⟩
    · simp only [hremove, Prod.mk.injEq] at hback
      cases hback.1

theorem read_notFound (h : Leads p absolute dirs name) {t : FileTree}
    (hr : t.read p = .error .notFound) : t.Missing (dirs ++ [name]) := by
  unfold FileTree.read at hr
  split at hr
  · cases hr
  · cases hr
  · rename_i e he
    cases hr
    exact h.spells.find_notFound he

theorem removeDirs_missing (h : Leads p absolute dirs name) {t u : FileTree} (ht : t.WellFormed)
    (hm : t.Missing (dirs ++ [name])) (hshort : Short dirs) (hu : WithDirs t dirs u) :
    (removeDirs u (missing t p)).Same t := by
  rw [missing_eq, h.ancestors]
  refine removeDirs_withDirs ht absolute dirs h.above h.isName hshort (fun l hl => ?_) hu
  exact hm.above ht h.spells.downward l (hl.trans (List.prefix_append _ _))

/-- A new file gets the directories it needs, unless its path can only mean a directory. -/
theorem stage_new (h : Leads p absolute dirs name) {t : FileTree} (ht : t.WellFormed)
    (hr : t.read p = .error .notFound) (hshort : Short (dirs ++ [name])) (content : ByteArray) :
    (∃ u, stage t p content = (.error .isDirectory, u) ∧ u.Same t) ∨
      ∃ u, stage t p content =
          (.ok ⟨p, none, missing t p⟩, u.put (dirs ++ [name]) (.file content)) ∧
        WithDirs t dirs u ∧ endsAsDirectory p = false := by
  have hm := read_notFound h hr
  have hprevious : previousAt t p = .ok none := by rw [previousAt, hr]
  obtain ⟨hok, hwith⟩ := (h.makeDirs_of_missing ht hm).all (short_concat.mp hshort).1
  have hnone : (t.makeDirs (Path.ofNames absolute dirs)).2.node? (dirs ++ [name]) = none := by
    rw [hwith.kept _ (Or.inr (not_prefix_concat dirs [] name)), hm.node? ht h.spells.downward]
  have hfollow := follow_concat_short (hwith.follow h.downward_dirs (short_concat.mp hshort).1)
    (hwith.dirs dirs (List.prefix_refl _)) (h.spells.downward name (by simp))
    (short_concat.mp hshort).2
  generalize hmade : t.makeDirs (Path.ofNames absolute dirs) = made at *
  obtain ⟨result, u⟩ := made
  dsimp only at hok hwith hnone hfollow
  subst hok
  have hwrite := h.spells.write_new hfollow hnone content
  by_cases hdir : endsAsDirectory p = true
  · left
    rw [if_pos hdir] at hwrite
    have hremove := h.spells.removeFile_of_missing (Or.inr ⟨hfollow, hnone⟩)
    refine ⟨removeDirs u (missing t p), ?_,
      removeDirs_missing h ht hm (short_concat.mp hshort).1 hwith⟩
    rw [stage, hprevious]
    simp only [place, h.parent?, hmade, hwrite, putBack_none, hremove]
  · right
    rw [if_neg hdir] at hwrite
    refine ⟨u, ?_, hwith, by simpa using hdir⟩
    rw [stage, hprevious]
    simp only [place, h.parent?, hmade, hwrite]

/-- Where a directory has to be made above or at a name that is too long, directories are left
behind: the file that was to be removed cannot even be looked up, so that nothing is. -/
theorem stage_long (h : Leads p absolute dirs name) {t : FileTree} (ht : t.WellFormed)
    (hr : t.read p = .error .notFound) (hlong : ¬Short (dirs ++ [name])) (content : ByteArray) :
    ∃ u, stage t p content = (.error .nameTooLong, u) ∧
      ∃ l, l <+: dirs ∧ t.node? l = none ∧ u.node? l = some .directory := by
  have hm := read_notFound h hr
  have hprevious : previousAt t p = .ok none := by rw [previousAt, hr]
  have hmade := h.makeDirs_of_missing ht hm
  suffices hplace : ∃ u, t.place p content = (.error .nameTooLong, u) ∧
      u.follow (dirs ++ [name]) = .error .nameTooLong ∧
      ∃ l, l <+: dirs ∧ t.node? l = none ∧ u.node? l = some .directory by
    obtain ⟨u, hplace, hfollow, hleft⟩ := hplace
    refine ⟨u, ?_, hleft⟩
    rw [stage, hprevious]
    simp only [hplace, putBack_none, h.spells.removeFile_error hfollow]
  by_cases hshort : Short dirs
  · have hname : ¬name.utf8ByteSize ≤ nameLimit := fun hn => hlong (short_concat.mpr ⟨hshort, hn⟩)
    obtain ⟨hok, hwith⟩ := hmade.all hshort
    have hdir := hwith.dirs dirs (List.prefix_refl _)
    have hfollow := follow_concat_long (hwith.follow h.downward_dirs hshort) hdir
      (h.spells.downward name (by simp)) (Nat.not_le.mp hname)
    have hmissing : t.Missing dirs := by
      rcases hm with hf | ⟨hf, -⟩
      · exact missing_of_notFound h.spells.downward hf
      · exact absurd (directory_of_follow h.spells.downward hf).1 hlong
    have hnone := hmissing.node? ht h.downward_dirs
    generalize hresult : t.makeDirs (Path.ofNames absolute dirs) = made at *
    obtain ⟨result, u⟩ := made
    dsimp only at hok hwith hdir hfollow
    subst hok
    refine ⟨u, ?_, hfollow, dirs, List.prefix_refl _, hnone, hdir⟩
    simp only [place, h.parent?, hresult, h.spells.write_error hfollow]
  · obtain ⟨herror, hfollow, hleft⟩ := hmade.part hshort
    generalize hresult : t.makeDirs (Path.ofNames absolute dirs) = made at *
    obtain ⟨result, u⟩ := made
    dsimp only at herror hfollow hleft
    subst herror
    refine ⟨u, ?_, follow_append_error hfollow _, hleft⟩
    simp only [place, h.parent?, hresult]

end Staged
end Testsmith
