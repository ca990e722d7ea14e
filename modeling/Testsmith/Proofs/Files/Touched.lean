/-
# What an operation on a path touches

Placing a file, staging one and putting things back work on one path and on those above it. Whatever
the tree and whatever the path, also with `..` in it: they change nothing but what the path leads
through or to, and of the files only the one that it leads to (`Touches`).

Key definitions: `OnWay`, `Touches`.
Key theorems: `place_touches`, `stage_touches`, `putBack_touches`.
-/
import Testsmith.Proofs.Files.Parts
import Testsmith.Proofs.Files.Spelled
import Testsmith.Staging

namespace Testsmith

namespace Path

/-- The path above another one leads through some of its parts. -/
theorem prefix_of_parent? {p q : Path} (h : p.parent? = some q) :
    FileTree.pathParts q <+: FileTree.pathParts p := by
  have hq : q = ofComponents p.components.dropLast := by
    rw [parent?] at h
    split at h
    · cases h
    · cases h
    · exact (Option.some.inj h).symm
  have hcomponents : q.components = p.components.dropLast := by
    rw [hq, components_ofComponents (components_regular p).dropLast]
  rw [pathParts_eq_filterMap, pathParts_eq_filterMap, hcomponents]
  exact (List.dropLast_prefix _).filterMap _

end Path

namespace FileTree

/-- The parts lead through the location, or to it. -/
def OnWay (parts : List String) (l : Location) : Prop := ∃ ms, ms <+: parts ∧ spell ms = l

/-- All that has changed is on the way that the parts lead. -/
def ChangedOnWay (parts : List String) (t u : FileTree) : Prop :=
  ∀ l, u.node? l ≠ t.node? l → OnWay parts l

/-- All that has changed is on the way, and of the files the one that the parts lead to. -/
structure Touches (parts : List String) (t u : FileTree) : Prop where
  way : ChangedOnWay parts t u
  files : ∀ l, l ≠ spell parts → u.fileAt l = t.fileAt l

variable {parts more : List String} {t u v : FileTree} {p : Path} {l : Location}

theorem OnWay.mono (h : OnWay parts l) (hmore : parts <+: more) : OnWay more l := by
  obtain ⟨ms, hms, rfl⟩ := h
  exact ⟨ms, hms.trans hmore, rfl⟩

theorem ChangedOnWay.refl (parts : List String) (t : FileTree) : ChangedOnWay parts t t :=
  fun _ h => absurd rfl h

theorem ChangedOnWay.mono (h : ChangedOnWay parts t u) (hmore : parts <+: more) :
    ChangedOnWay more t u :=
  fun l hl => (h l hl).mono hmore

theorem ChangedOnWay.trans (h : ChangedOnWay parts t u) (h' : ChangedOnWay parts u v) :
    ChangedOnWay parts t v := by
  intro l hl
  by_cases hu : u.node? l = t.node? l
  · rw [← hu] at hl
    exact h' l hl
  · exact h l hu

theorem changedOnWay_put (t : FileTree) (parts : List String) (n : FileNode) :
    ChangedOnWay parts t (t.put (spell parts) n) := by
  intro l hl
  by_cases hend : l = spell parts
  · exact ⟨parts, List.prefix_refl _, hend.symm⟩
  · exact absurd (node?_put_of_ne t n hend) hl

theorem changedOnWay_erase (t : FileTree) (parts : List String) :
    ChangedOnWay parts t (t.erase (spell parts)) := by
  intro l hl
  by_cases hend : l = spell parts
  · exact ⟨parts, List.prefix_refl _, hend.symm⟩
  · exact absurd (node?_erase_of_ne t hend) hl

theorem fileAt_congr (h : u.node? l = t.node? l) : u.fileAt l = t.fileAt l := by
  rw [fileAt, h, fileAt]

namespace Touches

theorem refl (parts : List String) (t : FileTree) : Touches parts t t :=
  ⟨.refl parts t, fun _ _ => rfl⟩

theorem trans (h : Touches parts t u) (h' : Touches parts u v) : Touches parts t v :=
  ⟨h.way.trans h'.way, fun l hl => (h'.files l hl).trans (h.files l hl)⟩

theorem put (t : FileTree) (parts : List String) (n : FileNode) :
    Touches parts t (t.put (spell parts) n) :=
  ⟨changedOnWay_put t parts n, fun _ hl => fileAt_congr (node?_put_of_ne t n hl)⟩

theorem erase (t : FileTree) (parts : List String) : Touches parts t (t.erase (spell parts)) :=
  ⟨changedOnWay_erase t parts, fun _ hl => fileAt_congr (node?_erase_of_ne t hl)⟩

end Touches

/-! ### Making directories and placing a file -/

theorem ensureDir_way (h : t.ensureDir p = .ok u) : ChangedOnWay (pathParts p) t u := by
  rw [ensureDir] at h
  cases hmade : t.makeDir p with
  | error e =>
    simp only [hmade] at h
    split at h
    · rw [← Except.ok.inj h]
      exact .refl _ t
    · cases h
  | ok made =>
    simp only [hmade, Except.ok.injEq] at h
    subst h
    rw [makeDir] at hmade
    cases hl : t.locate p with
    | error e =>
      rw [hl] at hmade
      cases hmade
    | ok l =>
      obtain rfl := locate_spelled hl
      rw [hl] at hmade
      simp only [bind, Except.bind] at hmade
      split at hmade
      · cases hmade
      · rw [← Except.ok.inj hmade]
        exact changedOnWay_put t _ _

/-- Directories are made on the way only. The induction is on the number of components left. -/
theorem makeDirsWithin_way : ∀ (bound : Nat) (t : FileTree) (p : Path),
    ChangedOnWay (pathParts p) t (t.makeDirsWithin bound p).2
  | 0, t, _ => .refl _ t
  | bound + 1, t, p => by
    rw [makeDirsWithin]
    split
    · exact .refl _ t
    · cases hd : t.ensureDir p with
      | ok u => exact ensureDir_way hd
      | error e =>
        by_cases he : e = .notFound
        · subst he
          cases hp : p.parent? with
          | none => exact .refl _ t
          | some parent =>
            have ih := (makeDirsWithin_way bound t parent).mono (Path.prefix_of_parent? hp)
            dsimp only
            generalize t.makeDirsWithin bound parent = made at ih ⊢
            obtain ⟨result, u⟩ := made
            cases result with
            | error e => exact ih
            | ok _ =>
              dsimp only at ih ⊢
              cases hd' : u.ensureDir p with
              | ok w => exact ih.trans (ensureDir_way hd')
              | error e => exact ih
        · cases e <;> first | exact absurd rfl he | exact .refl _ t

theorem makeDirs_touches (t : FileTree) (p : Path) :
    Touches (pathParts p) t (t.makeDirs p).2 :=
  ⟨makeDirsWithin_way _ t p, fun l _ => (adds_makeDirs t p l).fileAt⟩

theorem write_touches {content : ByteArray} (h : t.write p content = .ok u) :
    Touches (pathParts p) t u := by
  obtain ⟨l, hl, -, -, rfl⟩ := write_ok h
  obtain rfl := locate_spelled hl
  exact .put t _ _

/-- **Placing a file touches its way, and no other file.** -/
theorem place_touches (t : FileTree) (p : Path) (content : ByteArray) :
    Touches (pathParts p) t (t.place p content).2 := by
  rw [place]
  cases hp : p.parent? with
  | none =>
    dsimp only
    cases hw : t.write p content with
    | error e => exact .refl _ t
    | ok u => exact write_touches hw
  | some parent =>
    have hdirs := makeDirs_touches t parent
    have hmade : Touches (pathParts p) t (t.makeDirs parent).2 :=
      ⟨hdirs.way.mono (Path.prefix_of_parent? hp), fun l _ => (adds_makeDirs t parent l).fileAt⟩
    dsimp only
    generalize t.makeDirs parent = made at hmade ⊢
    obtain ⟨result, u⟩ := made
    cases result with
    | error e => exact hmade
    | ok _ =>
      dsimp only
      cases hw : u.write p content with
      | error e => exact hmade
      | ok w => exact hmade.trans (write_touches hw)

/-! ### Removing -/

theorem removeFile_touches (h : t.removeFile p = .ok u) : Touches (pathParts p) t u := by
  rw [removeFile, find] at h
  cases hl : t.locate p with
  | error e =>
    rw [hl] at h
    cases h
  | ok l =>
    obtain rfl := locate_spelled hl
    rw [hl] at h
    simp only [bind, Except.bind] at h
    rcases hn : t.node? (spelled p) with _ | _ | content
    · rw [hn] at h
      cases h
    · rw [hn] at h
      cases h
    · rw [hn] at h
      rw [← Except.ok.inj h]
      exact .erase t _

/-- A directory that is removed was one before. -/
theorem removeDir_way (h : t.removeDir p = .ok u) :
    ChangedOnWay (pathParts p) t u ∧ ∀ l, u.fileAt l = t.fileAt l := by
  rw [removeDir, find] at h
  cases hl : t.locate p with
  | error e =>
    rw [hl] at h
    cases h
  | ok l =>
    obtain rfl := locate_spelled hl
    rw [hl] at h
    simp only [bind, Except.bind] at h
    rcases hn : t.node? (spelled p) with _ | _ | content
    · rw [hn] at h
      cases h
    · rw [hn] at h
      dsimp only at h
      split at h
      · cases h
      · split at h
        · cases h
        · rename_i hne
          rw [← Except.ok.inj h]
          refine ⟨changedOnWay_erase t _, fun m => ?_⟩
          by_cases hm : m = spelled p
          · rw [hm, fileAt, node?_erase_self t (by simpa using hne), fileAt, hn]
          · exact fileAt_congr (node?_erase_of_ne t hm)
    · rw [hn] at h
      cases h

end FileTree

namespace Staged

open FileTree

variable {t u : FileTree} {p : Path}

theorem removeDirs_way {parts : List String} : ∀ {dirs : List Path} (t : FileTree),
    (∀ dir ∈ dirs, pathParts dir <+: parts) →
      ChangedOnWay parts t (removeDirs t dirs) ∧ ∀ l, (removeDirs t dirs).fileAt l = t.fileAt l
  | [], t, _ => ⟨.refl parts t, fun _ => rfl⟩
  | dir :: dirs, t, h => by
    rw [List.forall_mem_cons] at h
    rw [removeDirs]
    cases hdir : t.removeDir dir with
    | error e => exact ⟨.refl parts t, fun _ => rfl⟩
    | ok u =>
      obtain ⟨hway, hfiles⟩ := removeDir_way hdir
      obtain ⟨hways, hmore⟩ := removeDirs_way u h.2
      exact ⟨(hway.mono h.1).trans hways, fun l => (hmore l).trans (hfiles l)⟩

theorem prefix_of_mem_ancestorsWithin : ∀ {bound : Nat} {p dir : Path},
    dir ∈ ancestorsWithin bound p →
    pathParts dir <+: pathParts p
  | 0, _, _, h => absurd h List.not_mem_nil
  | bound + 1, p, dir, h => by
    rw [ancestorsWithin] at h
    cases hp : p.parent? with
    | none =>
      rw [hp] at h
      exact absurd h List.not_mem_nil
    | some parent =>
      rw [hp] at h
      rcases List.mem_cons.mp h with rfl | h
      · exact Path.prefix_of_parent? hp
      · exact (prefix_of_mem_ancestorsWithin h).trans (Path.prefix_of_parent? hp)

/-- The directories that have to be made are on the way. -/
theorem prefix_of_mem_missing {dir : Path} (h : dir ∈ missing t p) :
    pathParts dir <+: pathParts p :=
  prefix_of_mem_ancestorsWithin ((List.takeWhile_prefix _).subset h)

/-- **Putting things back touches the way of the path, and no other file**, whatever has become of
the tree since. -/
theorem putBack_touches {s : Staged} (h : ∀ dir ∈ s.created, pathParts dir <+: pathParts s.path)
    (t : FileTree) : Touches (pathParts s.path) t (s.putBack t).2 := by
  have hdirs (u : FileTree) : Touches (pathParts s.path) u (removeDirs u s.created) :=
    ⟨(removeDirs_way u h).1, fun l _ => (removeDirs_way u h).2 l⟩
  rw [putBack]
  cases s.previous with
  | some content =>
    dsimp only
    cases hw : t.write s.path content with
    | error e => exact .refl _ t
    | ok u => exact (write_touches hw).trans (hdirs u)
  | none =>
    dsimp only
    cases hr : t.removeFile s.path with
    | ok u => exact (removeFile_touches hr).trans (hdirs u)
    | error e =>
      by_cases he : e = .notFound
      · subst he
        exact hdirs t
      · cases e <;> first | exact absurd rfl he | exact .refl _ t

/-- **Staging touches the way of the path, and no other file.** -/
theorem stage_touches (t : FileTree) (p : Path) (content : ByteArray) :
    Touches (pathParts p) t (stage t p content).2 := by
  rw [stage]
  cases previousAt t p with
  | error e => exact .refl _ t
  | ok previous =>
    have hplace := place_touches t p content
    dsimp only
    generalize t.place p content = placed at hplace ⊢
    obtain ⟨result, u⟩ := placed
    cases result with
    | ok _ => exact hplace
    | error e =>
      have hback := putBack_touches (s := ⟨p, previous, missing t p⟩)
        (fun dir hdir => prefix_of_mem_missing hdir) u
      exact hplace.trans hback

/-- What is staged can be put back in touching no more. -/
theorem stage_ok {content : ByteArray} {s : Staged} (h : stage t p content = (.ok s, u)) :
    s.path = p ∧ ∀ dir ∈ s.created, pathParts dir <+: pathParts s.path := by
  rw [stage] at h
  cases hprevious : previousAt t p with
  | error e =>
    rw [hprevious] at h
    cases h
  | ok previous =>
    rw [hprevious] at h
    dsimp only at h
    split at h
    · rw [Prod.mk.injEq, Except.ok.injEq] at h
      rw [← h.1]
      exact ⟨rfl, fun dir hdir => prefix_of_mem_missing hdir⟩
    · cases h

end Staged

end Testsmith
