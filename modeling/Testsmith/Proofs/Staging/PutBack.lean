/-
# Putting things back

Removing the directories that were made for a test, the deepest first, takes away all of them when
nothing else is in them (`removeDirs_withDirs`), and never anything else (`removeDirs_frame`).

Key definitions: `unmade`.
Key theorems: `removeDirs_withDirs`, `removeDirs_frame`.
-/
import Testsmith.Proofs.Files.Changes

namespace Testsmith
namespace Staged

open FileTree

/-- The directory has to be made. -/
def unmade (t : FileTree) (dir : Path) : Bool := !dir.text.isEmpty && !t.has dir

theorem missing_eq (t : FileTree) (p : Path) :
    missing t p = (ancestors p).takeWhile (unmade t) := rfl

theorem not_has_of_none {t : FileTree} {p : Path} {names : List String} (h : Spells p names)
    (hn : t.node? names = none) : t.has p = false := by
  cases hf : t.find p with
  | error e => rw [has, hf]; rfl
  | ok found =>
    obtain ⟨l, n⟩ := found
    obtain ⟨-, -, -, hsome⟩ := h.find_ok hf
    rw [hn] at hsome
    cases hsome

theorem has_directory {t : FileTree} {p : Path} {names : List String} (h : Spells p names)
    (hf : t.follow names = .ok names) (hn : t.node? names = some .directory) : t.has p = true := by
  rw [has, h.find_directory hf hn]
  rfl

/-- The top never has to be made. -/
theorem not_unmade_top (t : FileTree) (absolute : Bool) :
    unmade t (Path.ofNames absolute []) = false := by
  cases absolute with
  | false => rfl
  | true => rw [unmade, has_directory spells_top rfl rfl]; simp

theorem not_unmade_directory {t : FileTree} {absolute : Bool} {names : List String}
    (hs : names ≠ [] → Spells (Path.ofNames absolute names) names)
    (hf : t.follow names = .ok names) (hn : t.node? names = some .directory) :
    unmade t (Path.ofNames absolute names) = false := by
  by_cases hne : names = []
  · rw [hne]
    exact not_unmade_top t absolute
  · rw [unmade, has_directory (hs hne) hf hn]
    simp

theorem unmade_of_none {t : FileTree} {p : Path} {names : List String} (h : Spells p names)
    (hn : t.node? names = none) : unmade t p = true := by
  rw [unmade, not_has_of_none h hn]
  simpa using h.usable.1

theorem takeWhile_dirsOf {t : FileTree} {absolute : Bool} {names : List String}
    (h : unmade t (Path.ofNames absolute names) = false) :
    (Path.dirsOf absolute names).takeWhile (unmade t) = [] := by
  rcases List.eq_nil_or_concat names with rfl | ⟨ms, name, rfl⟩
  · rw [Path.dirsOf_nil, List.takeWhile_cons_of_neg (by simp [h])]
  · rw [List.concat_eq_append] at h ⊢
    rw [Path.dirsOf_concat, List.takeWhile_cons_of_neg (by simp [h])]

/-- Directories that have to be made are not there, and neither is the top. -/
theorem spells_of_mem_takeWhile {t : FileTree} {absolute : Bool} {names : List String}
    (hs : ∀ ms, ms <+: names → ms ≠ [] → Spells (Path.ofNames absolute ms) ms) {dir : Path}
    (hm : dir ∈ (Path.dirsOf absolute names).takeWhile (unmade t)) :
    ∃ ms, ms <+: names ∧ Spells dir ms ∧ t.has dir = false := by
  have hunmade : unmade t dir = true := by
    have hall := List.all_takeWhile (p := unmade t) (l := Path.dirsOf absolute names)
    exact List.all_eq_true.mp hall dir hm
  obtain ⟨ms, hms, rfl⟩ := Path.mem_dirsOf ((List.takeWhile_prefix _).subset hm)
  have hne : ms ≠ [] := by
    rintro rfl
    rw [not_unmade_top] at hunmade
    cases hunmade
  refine ⟨ms, hms, hs ms hms hne, ?_⟩
  rw [unmade, Bool.and_eq_true, Bool.not_eq_true'] at hunmade
  simpa using hunmade.2

/-- The last component of a path of names is a name. -/
theorem getLast?_ofNames_concat {absolute : Bool} {ms : List String} {name : String}
    (h : ∀ s ∈ ms ++ [name], Path.IsName s) :
    (Path.ofNames absolute (ms ++ [name])).components.getLast? ≠ some .up := by
  rw [Path.components_ofNames absolute h, List.map_append, List.map_singleton, ← List.append_assoc,
    List.getLast?_concat]
  simp

/-- **Directories that were made are removed again.** The induction is on the names, from the
deepest directory upwards: each is empty when its turn comes, as nothing was there before it was
made. -/
theorem removeDirs_withDirs {t : FileTree} (ht : t.WellFormed) (absolute : Bool)
    (names : List String) (hs : ∀ ms, ms <+: names → ms ≠ [] → Spells (Path.ofNames absolute ms) ms)
    (hn : ∀ s ∈ names, Path.IsName s) (hshort : Short names)
    (habove : ∀ l, l <+: names → t.node? l = none ∨ t.node? l = some .directory) {u : FileTree}
    (h : WithDirs t names u) :
    (removeDirs u ((Path.dirsOf absolute names).takeWhile (unmade t))).Same t := by
  induction names using List.reverseRecOn generalizing u with
  | nil =>
    rw [takeWhile_dirsOf (not_unmade_top t absolute)]
    intro l
    by_cases hl : l = []
    · rw [hl]
      rfl
    · exact h.kept l (Or.inr fun hp => hl (List.prefix_nil.mp hp))
  | append_singleton ms name ih =>
    have hspells := hs _ (List.prefix_refl _) (by simp)
    have hd := hspells.downward
    rcases habove _ (List.prefix_refl _) with hnone | hdir
    · have hlast := h.dirs _ (List.prefix_refl _)
      have hempty : ∀ child, u.node? ((ms ++ [name]) ++ [child]) = none := by
        intro child
        rw [h.kept _ (Or.inr (not_prefix_concat _ [] child))]
        by_contra hsome
        rw [ht.directory_of_concat hsome] at hnone
        cases hnone
      have hremove := hspells.removeDir_empty (h.follow hd hshort) hlast hempty (by simp)
        (getLast?_ofNames_concat hn)
      rw [Path.dirsOf_concat, List.takeWhile_cons_of_pos (unmade_of_none hspells hnone), removeDirs,
        hremove]
      exact ih (fun ls hls => hs ls (hls.trans (List.prefix_append _ _)))
        (fun s hsm => hn s (List.mem_append_left _ hsm)) (short_concat.mp hshort).1
        (fun l hl => habove l (hl.trans (List.prefix_append _ _))) (h.erase hnone)
    · have hfollow : t.follow (ms ++ [name]) = .ok (ms ++ [name]) :=
        ht.follow hd hshort (by rw [hdir]; simp)
      rw [takeWhile_dirsOf (not_unmade_directory (fun _ => hspells) hfollow hdir)]
      exact h.same ht hdir

/-- Removing directories changes nothing but what they spell. -/
theorem removeDirs_frame : ∀ (dirs : List Path) (w : FileTree),
    (∀ dir ∈ dirs, ∃ names, Spells dir names) → ∀ l, (removeDirs w dirs).node? l = w.node? l ∨
      ((removeDirs w dirs).node? l = none ∧ ∃ dir ∈ dirs, Spells dir l)
  | [], _, _, _ => Or.inl rfl
  | dir :: dirs, w, h, l => by
    obtain ⟨names, hspells⟩ := h dir List.mem_cons_self
    rw [removeDirs]
    cases hr : w.removeDir dir with
    | error e => exact Or.inl rfl
    | ok w' =>
      obtain ⟨rfl, hne⟩ := hspells.removeDir_ok hr
      have ih := removeDirs_frame dirs (w.erase names)
        (fun d hd => h d (List.mem_cons_of_mem _ hd)) l
      dsimp only
      by_cases hl : l = names
      · subst hl
        right
        rw [node?_erase_self w hne] at ih
        refine ⟨?_, dir, List.mem_cons_self, hspells⟩
        rcases ih with ih | ⟨ih, -⟩
        · exact ih
        · exact ih
      · rw [node?_erase_of_ne w hl] at ih
        rcases ih with ih | ⟨ih, d, hd, hspells'⟩
        · exact Or.inl ih
        · exact Or.inr ⟨ih, d, List.mem_cons_of_mem _ hd, hspells'⟩

end Staged
end Testsmith
