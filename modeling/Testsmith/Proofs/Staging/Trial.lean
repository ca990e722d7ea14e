/-
# A trial leaves nothing behind

A test is verified by a build that finds it in its place and may do anything to the tree. What was
at the place before is there again afterwards, everything but the place and the directories that
were made for it is as the build left it, and a build that changes nothing leaves the tree as it was
(`LeavesNothing`). There is one exception, and it is an exact one (`leavesNothing_iff`): something
above the place is not there and a name on the path is too long. Directories are made down to the
long name, staging fails there, and the file that it would take away first cannot be looked up by
that name, so that the directories stay.

Key definitions: `NeedsDir`, `StandsIn`, `PutBackTo`, `LeavesNothing`, `TooLongBelowMissing`.
Key theorems: `leavesNothing_iff`.
-/
import Testsmith.Proofs.Staging.Stage
import Testsmith.Verifier

namespace Testsmith

open FileTree

/-- A directory above the place is not there. -/
def NeedsDir (t : FileTree) (l m : Location) : Prop := m <+: l ∧ m ≠ l ∧ t.node? m = none

/-- The tree with a file in its place and the directories above it, and nothing else changed. -/
structure StandsIn (t : FileTree) (l : Location) (content : ByteArray) (u : FileTree) : Prop where
  file : u.node? l = some (.file content)
  made : ∀ m, NeedsDir t l m → u.node? m = some .directory
  kept : ∀ m, m ≠ l → ¬NeedsDir t l m → u.node? m = t.node? m

/-- At the place there is what was there before the trial, and all but the place and the directories
made for it is as the build left it. -/
structure PutBackTo (t built : FileTree) (l : Location) (u : FileTree) : Prop where
  place : u.node? l = t.node? l
  others : ∀ m, m ≠ l → ¬NeedsDir t l m → u.node? m = built.node? m

/-- A command that leaves a tree a tree. -/
def KeepsTrees (run : Builder) : Prop :=
  ∀ directory timeout program arguments t, t.WellFormed →
    (run directory timeout program arguments t).2.WellFormed

/-- The file is not there since something above it is not, and a name on its path is too long. -/
def TooLongBelowMissing (t : FileTree) (p : Path) : Prop :=
  t.read p = .error .notFound ∧ ∃ part ∈ pathParts p, nameLimit < part.utf8ByteSize

namespace Verifier

/-- What a trial does to a tree. If the test cannot be put in its place, no command is run and
nothing changes. Otherwise the build finds it there; unless putting back fails, the place is as it
was and nothing of what the build did elsewhere is undone; and when the build changes nothing, the
whole tree is as it was. -/
def LeavesNothing (v : Verifier) (run : Builder) (a : Artifact) (t : FileTree) : Prop :=
  match Staged.stage t a.path a.render.toUTF8 with
  | (.error e, u) => (∀ other, v.verify other a t = (.error (.io e), u)) ∧ u.Same t
  | (.ok staged, u) =>
    let l := pathParts a.path
    let built := v.build run a.testClass u
    let after := v.verify run a t
    StandsIn t l a.render.toUTF8 u ∧
      ((∃ e, (staged.putBack built.2).1 = .error e ∧ after.1 = .error (.io e)) ∨
        (after.1 = built.1 ∧ PutBackTo t built.2 l after.2)) ∧
      (built.2.Same u → after.1 = built.1 ∧ after.2.Same t)

variable {v : Verifier} {run : Builder} {a : Artifact} {t : FileTree}

theorem leavesNothing_of_error {e : IoError} {u : FileTree}
    (h : Staged.stage t a.path a.render.toUTF8 = (.error e, u)) :
    v.LeavesNothing run a t ↔ u.Same t := by
  have hverify (other : Builder) : v.verify other a t = (.error (.io e), u) := by rw [verify, h]
  rw [LeavesNothing, h]
  exact and_iff_right hverify

section
variable {staged : Staged} {u w : FileTree}
  (h : Staged.stage t a.path a.render.toUTF8 = (.ok staged, u))

include h

theorem verify_putBack_ok (hput : staged.putBack (v.build run a.testClass u).2 = (.ok (), w)) :
    v.verify run a t = ((v.build run a.testClass u).1, w) := by
  rw [verify, h]
  simp only [hput]

theorem verify_putBack_error {e : IoError}
    (hput : staged.putBack (v.build run a.testClass u).2 = (.error e, w)) :
    v.verify run a t = (.error (.io e), w) := by
  rw [verify, h]
  simp only [hput]

end

theorem build_wellFormed (v : Verifier) (hrun : KeepsTrees run) (testClass : String)
    (ht : t.WellFormed) : (v.build run testClass t).2.WellFormed := by
  rw [build]
  split
  · exact ht
  · exact hrun _ _ _ _ t ht

/-- A trial leaves nothing behind as soon as what is put back is what was there. -/
theorem leavesNothing_of_staged {staged : Staged} {u : FileTree}
    (h : Staged.stage t a.path a.render.toUTF8 = (.ok staged, u))
    (hstands : StandsIn t (pathParts a.path) a.render.toUTF8 u)
    (hback : ∀ w, (staged.putBack (v.build run a.testClass u).2) = (.ok (), w) →
      PutBackTo t (v.build run a.testClass u).2 (pathParts a.path) w)
    (hsame : (v.build run a.testClass u).2.Same u →
      ∃ w, staged.putBack (v.build run a.testClass u).2 = (.ok (), w) ∧ w.Same t) :
    v.LeavesNothing run a t := by
  rw [LeavesNothing, h]
  refine ⟨hstands, ?_, fun hunchanged => ?_⟩
  · cases hput : staged.putBack (v.build run a.testClass u).2 with
    | mk result w =>
      cases result with
      | error e => exact Or.inl ⟨e, rfl, by rw [verify_putBack_error h hput]⟩
      | ok _ =>
        rw [verify_putBack_ok h hput]
        exact Or.inr ⟨rfl, hback w hput⟩
  · obtain ⟨w, hput, hw⟩ := hsame hunchanged
    rw [verify_putBack_ok h hput]
    exact ⟨rfl, hw⟩

end Verifier

theorem needsDir_concat_iff {t : FileTree} {dirs : List String} {name : String} {m : Location} :
    NeedsDir t (dirs ++ [name]) m ↔ m <+: dirs ∧ t.node? m = none := by
  refine ⟨fun ⟨hp, hne, hn⟩ => ⟨?_, hn⟩, fun ⟨hp, hn⟩ => ?_⟩
  · rcases List.prefix_concat_iff.mp hp with hp | hp
    · exact absurd hp hne
    · exact hp
  · exact ⟨hp.trans (List.prefix_append _ _), prefix_ne_concat hp, hn⟩

/-! ### Over a file that is there -/

section
variable {p : Path} {absolute : Bool} {dirs : List String} {name : String} {t u w : FileTree}
  {content old : ByteArray}

theorem standsIn_over (ht : t.WellFormed) (hn : t.node? (dirs ++ [name]) = some (.file old)) :
    StandsIn t (dirs ++ [name]) content (t.put (dirs ++ [name]) (.file content)) where
  file := node?_put_self t _ (by simp)
  made := by
    intro m hm
    obtain ⟨⟨rest, hrest⟩, hne, hnone⟩ := hm
    have hmore : rest ≠ [] := fun hnil => hne (by rw [← hrest, hnil, List.append_nil])
    have habove := ht.directory_above m rest hmore
      (by rw [hrest, hn]; simp)
    rw [hnone] at habove
    cases habove
  kept := fun m hm _ => node?_put_of_ne t _ hm

/-- Writing the old content over whatever file is there now. -/
theorem putBackTo_over (h : Leads p absolute dirs name)
    (hn : t.node? (dirs ++ [name]) = some (.file old))
    (hback : (⟨p, some old, []⟩ : Staged).putBack w = (.ok (), u)) :
    PutBackTo t w (dirs ++ [name]) u := by
  rw [Staged.putBack] at hback
  cases hwrite : w.write p old with
  | error e =>
    simp only [hwrite] at hback
    cases hback
  | ok w' =>
    obtain ⟨-, rfl, -⟩ := h.spells.write_ok hwrite
    simp only [hwrite, Staged.removeDirs, Prod.mk.injEq, true_and] at hback
    subst hback
    exact ⟨by rw [node?_put_self _ _ (by simp), hn], fun m hm _ => node?_put_of_ne w _ hm⟩

/-- A file is there to be written over or removed, if nothing changed since it was put there. -/
theorem locate_of_stands (h : Leads p absolute dirs name) (hshort : Short (dirs ++ [name]))
    (habove : ∀ m, m <+: dirs → w.node? m = some .directory)
    (hdir : endsAsDirectory p = false) : w.locate p = .ok (dirs ++ [name]) := by
  have hf : w.follow (dirs ++ [name]) = .ok (dirs ++ [name]) := by
    refine follow_eq_ok h.spells.downward hshort fun m hm hne => ?_
    rcases List.prefix_concat_iff.mp hm with hm | hm
    · exact absurd hm hne
    · exact habove m hm
  rcases h.spells.locate_of_follow hf with hl | ⟨-, hdir', -⟩
  · exact hl
  · rw [hdir] at hdir'
    cases hdir'

theorem putBack_over_same (h : Leads p absolute dirs name) (hl : t.locate p = .ok (dirs ++ [name]))
    (hn : t.node? (dirs ++ [name]) = some (.file old))
    (hw : w.Same (t.put (dirs ++ [name]) (.file content))) :
    ∃ u, (⟨p, some old, []⟩ : Staged).putBack w = (.ok (), u) ∧ u.Same t := by
  obtain ⟨-, hf⟩ := h.spells.locate_ok hl
  obtain ⟨hshort, habove⟩ := directory_of_follow h.spells.downward hf
  have hlocate : w.locate p = .ok (dirs ++ [name]) := by
    refine locate_of_stands h hshort (fun m hm => ?_) ((FileTree.locate_ok hl).2 old hn)
    rw [hw, node?_put_of_ne t _ (prefix_ne_concat hm)]
    exact habove m (hm.trans (List.prefix_append _ _)) (prefix_ne_concat hm)
  have hfile : w.node? (dirs ++ [name]) = some (.file content) := by
    rw [hw, node?_put_self t _ (by simp)]
  refine ⟨w.put (dirs ++ [name]) (.file old), ?_, fun m => ?_⟩
  · rw [Staged.putBack]
    simp only [write_over hlocate hfile, Staged.removeDirs]
  · by_cases hm : m = dirs ++ [name]
    · rw [hm, node?_put_self w _ (by simp), hn]
    · rw [node?_put_of_ne w _ hm, hw, node?_put_of_ne t _ hm]

/-! ### In a new place -/

theorem standsIn_new (hu : WithDirs t dirs u) :
    StandsIn t (dirs ++ [name]) content (u.put (dirs ++ [name]) (.file content)) where
  file := node?_put_self u _ (by simp)
  made := by
    intro m hm
    obtain ⟨hm, -⟩ := needsDir_concat_iff.mp hm
    rw [node?_put_of_ne u _ (prefix_ne_concat hm)]
    exact hu.dirs m hm
  kept := by
    intro m hne hm
    rw [node?_put_of_ne u _ hne]
    refine hu.kept m ?_
    rw [needsDir_concat_iff, not_and] at hm
    by_cases hp : m <+: dirs
    · exact Or.inl (hm hp)
    · exact Or.inr hp

/-- A directory that is to be removed was not there. -/
theorem needsDir_of_mem_missing (h : Leads p absolute dirs name) (ht : t.WellFormed)
    (hm : t.Missing (dirs ++ [name])) (hshort : Short dirs) {dir : Path} {m : Location}
    (hdir : dir ∈ Staged.missing t p) (hs : Spells dir m) : NeedsDir t (dirs ++ [name]) m := by
  obtain ⟨ms, hms, hspells, hhas⟩ := Staged.spells_of_mem_missing h hdir
  have hmm : m = ms := hs.parts.symm.trans hspells.parts
  subst hmm
  rw [needsDir_concat_iff]
  refine ⟨hms, ?_⟩
  rcases hm.above ht h.spells.downward m (hms.trans (List.prefix_append _ _)) with hnone | hsome
  · exact hnone
  · have hf := ht.follow hspells.downward (hshort.mono hms) (by rw [hsome]; simp)
    rw [Staged.has_directory hspells hf hsome] at hhas
    cases hhas

/-- Removing directories leaves the place empty and all but the directories made for it as it is. -/
theorem putBackTo_removeDirs (h : Leads p absolute dirs name) (ht : t.WellFormed)
    (hm : t.Missing (dirs ++ [name])) (hshort : Short dirs)
    (hplace : u.node? (dirs ++ [name]) = none)
    (hothers : ∀ m, m ≠ dirs ++ [name] → u.node? m = w.node? m) :
    PutBackTo t w (dirs ++ [name]) (Staged.removeDirs u (Staged.missing t p)) := by
  have hframe := Staged.removeDirs_frame (Staged.missing t p) u fun dir hdir => by
    obtain ⟨ms, -, hspells, -⟩ := Staged.spells_of_mem_missing h hdir
    exact ⟨ms, hspells⟩
  refine ⟨?_, fun m hne hneeds => ?_⟩
  · rw [hm.node? ht h.spells.downward]
    rcases hframe (dirs ++ [name]) with hsame | ⟨hnone, -⟩
    · rw [hsame, hplace]
    · exact hnone
  · rcases hframe m with hsame | ⟨-, dir, hdir, hs⟩
    · rw [hsame, hothers m hne]
    · exact absurd (needsDir_of_mem_missing h ht hm hshort hdir hs) hneeds

theorem putBackTo_new (h : Leads p absolute dirs name) (ht : t.WellFormed)
    (hm : t.Missing (dirs ++ [name])) (hshort : Short dirs) (hw : w.WellFormed)
    (hback : (⟨p, none, Staged.missing t p⟩ : Staged).putBack w = (.ok (), u)) :
    PutBackTo t w (dirs ++ [name]) u := by
  obtain ⟨x, hx, hmissing, hkept, rfl⟩ := Staged.putBack_none_ok h hw hback
  exact putBackTo_removeDirs h ht hm hshort (hmissing.node? hx h.spells.downward) hkept

theorem putBack_new_same (h : Leads p absolute dirs name) (ht : t.WellFormed)
    (hm : t.Missing (dirs ++ [name])) (hshort : Short (dirs ++ [name])) (hu : WithDirs t dirs u)
    (hdir : endsAsDirectory p = false) (hw : w.Same (u.put (dirs ++ [name]) (.file content))) :
    ∃ u', (⟨p, none, Staged.missing t p⟩ : Staged).putBack w = (.ok (), u') ∧ u'.Same t := by
  have hkeep (m : Location) (hne : m ≠ dirs ++ [name]) : w.node? m = u.node? m := by
    rw [hw, node?_put_of_ne u _ hne]
  have hlocate : w.locate p = .ok (dirs ++ [name]) := by
    refine locate_of_stands h hshort (fun m hm => ?_) hdir
    rw [hkeep m (prefix_ne_concat hm)]
    exact hu.dirs m hm
  have hfile : w.node? (dirs ++ [name]) = some (.file content) := by
    rw [hw, node?_put_self u _ (by simp)]
  have hwith : WithDirs t dirs (w.erase (dirs ++ [name])) := by
    refine ⟨fun m hm => ?_, fun m hm' => ?_⟩
    · rw [node?_erase_of_ne w (prefix_ne_concat hm), hkeep m (prefix_ne_concat hm)]
      exact hu.dirs m hm
    · by_cases hne : m = dirs ++ [name]
      · rw [hne, node?_erase_self w (by simp), hm.node? ht h.spells.downward]
      · rw [node?_erase_of_ne w hne, hkeep m hne]
        exact hu.kept m hm'
  refine ⟨_, ?_, Staged.removeDirs_missing h ht hm (short_concat.mp hshort).1 hwith⟩
  rw [Staged.putBack_none, removeFile_file hlocate hfile]

end

/-! ### The trial -/

theorem read_eq_notFound {t : FileTree} {p : Path} (h : t.read p = .error .notFound) :
    t.find p = .error .notFound := by
  unfold FileTree.read at h
  split at h
  · cases h
  · cases h
  · rename_i e he
    cases h
    exact he

/-- A path that leads nowhere and has no names is no path at all. -/
theorem eq_empty_of_notFound {t : FileTree} {p : Path} (hr : t.read p = .error .notFound)
    (h : ¬(Usable p ∧ pathParts p ≠ [])) : p = ⟨""⟩ := by
  have hfind := read_eq_notFound hr
  by_cases hu : Usable p
  · have hs : Spells p [] := by
      refine ⟨hu, ?_, by simp [Downward]⟩
      by_contra hne
      exact h ⟨hu, hne⟩
    rw [hs.find_directory rfl rfl] at hfind
    cases hfind
  · by_contra hne
    have hempty : ¬p.text.isEmpty = true := by
      intro he
      refine hne ?_
      obtain ⟨text⟩ := p
      rw [Path.mk.injEq]
      simpa using he
    have hlocate : t.locate p = .error .nulInPath ∨ t.locate p = .error .nameTooLong := by
      by_cases hnul : p.text.toList.contains '\x00' = true
      · exact Or.inl (by rw [locate, if_neg hempty, if_pos hnul])
      · by_cases hlong : pathLimit ≤ p.text.utf8ByteSize
        · exact Or.inr (by rw [locate, if_neg hempty, if_neg hnul, if_pos hlong])
        · refine absurd ⟨by simpa using hempty, fun hm => hnul ?_, Nat.not_le.mp hlong⟩ hu
          simpa using hm
    rw [find] at hfind
    rcases hlocate with hl | hl <;> rw [hl] at hfind <;> cases hfind

theorem stage_empty (t : FileTree) (content : ByteArray) :
    Staged.stage t ⟨""⟩ content = (.error .notFound, t) := rfl

/-- Staging does not get past a path that cannot be read, though something may be there. -/
theorem stage_unreadable {t : FileTree} {p : Path} {e : IoError} (hr : t.read p = .error e)
    (he : e ≠ .notFound) (content : ByteArray) : Staged.stage t p content = (.error e, t) := by
  have hprevious : Staged.previousAt t p = .error e := by
    rw [Staged.previousAt, hr]
    cases e <;> first | rfl | exact absurd rfl he
  rw [Staged.stage, hprevious]

theorem leads_of_read {t : FileTree} {p : Path} {content : ByteArray} (hp : p.Plain)
    (hr : t.read p = .ok content) : ∃ absolute dirs name, Leads p absolute dirs name := by
  have hfind : ∃ l, t.find p = .ok (l, .file content) := by
    unfold FileTree.read at hr
    split at hr
    · rename_i l c hl
      exact ⟨l, by rw [hl, Except.ok.inj hr]⟩
    · cases hr
    · cases hr
  obtain ⟨l, hfind⟩ := hfind
  have hu : Usable p := by
    by_contra hu
    obtain ⟨e, -, he⟩ := locate_of_not_usable hu
    rw [find, he] at hfind
    cases hfind
  refine leads_of_plain hp hu fun hnil => ?_
  have hs : Spells p [] := ⟨hu, hnil, by simp [Downward]⟩
  rw [hs.find_directory rfl rfl] at hfind
  cases hfind

section
variable {v : Verifier} {run : Builder} {a : Artifact} {t : FileTree} {absolute : Bool}
  {dirs : List String} {name : String}

/-- A trial over a file leaves nothing. -/
theorem leavesNothing_over (ht : t.WellFormed) (h : Leads a.path absolute dirs name)
    {old : ByteArray} (hr : t.read a.path = .ok old) : v.LeavesNothing run a t := by
  obtain ⟨hstage, hlocate, hn⟩ := Staged.stage_over h hr a.render.toUTF8
  refine Verifier.leavesNothing_of_staged hstage ?_ ?_ (putBack_over_same h hlocate hn)
  · rw [h.spells.parts]
    exact standsIn_over ht hn
  · rw [h.spells.parts]
    exact fun w hw => putBackTo_over h hn hw

/-- A trial in a new place leaves nothing when all names on the path are short. -/
theorem leavesNothing_new (ht : t.WellFormed) (hrun : KeepsTrees run)
    (h : Leads a.path absolute dirs name) (hr : t.read a.path = .error .notFound)
    (hshort : Short (dirs ++ [name])) : v.LeavesNothing run a t := by
  have hm := Staged.read_notFound h hr
  rcases Staged.stage_new h ht hr hshort a.render.toUTF8 with
    ⟨u, hstage, hsame⟩ | ⟨u, hstage, hu, hdir⟩
  · exact (Verifier.leavesNothing_of_error hstage).mpr hsame
  · have hnone : u.node? (dirs ++ [name]) = none := by
      rw [hu.kept _ (Or.inr (not_prefix_concat dirs [] name)), hm.node? ht h.spells.downward]
    have hstands : (u.put (dirs ++ [name]) (.file a.render.toUTF8)).WellFormed := by
      refine (hu.wellFormed ht).put _ ?_ (by rw [hnone]; simp)
      rw [List.dropLast_concat]
      exact hu.dirs dirs (List.prefix_refl _)
    have hbuilt := v.build_wellFormed hrun a.testClass hstands
    refine Verifier.leavesNothing_of_staged hstage ?_ ?_ (putBack_new_same h ht hm hshort hu hdir)
    · rw [h.spells.parts]
      exact standsIn_new hu
    · rw [h.spells.parts]
      exact fun w hw => putBackTo_new h ht hm (short_concat.mp hshort).1 hbuilt hw

/-- A trial below something missing leaves directories when a name on the path is too long. -/
theorem not_leavesNothing_long (ht : t.WellFormed) (h : Leads a.path absolute dirs name)
    (hr : t.read a.path = .error .notFound) (hlong : ¬Short (dirs ++ [name])) :
    ¬v.LeavesNothing run a t := by
  obtain ⟨u, hstage, l, -, hnone, hdir⟩ := Staged.stage_long h ht hr hlong a.render.toUTF8
  intro hl
  have hsame := (Verifier.leavesNothing_of_error hstage).mp hl
  rw [hsame l, hnone] at hdir
  cases hdir

/-- A trial changes nothing when the path cannot be read, though something may be there. -/
theorem leavesNothing_unreadable {e : IoError} (hr : t.read a.path = .error e)
    (he : e ≠ .notFound) : v.LeavesNothing run a t :=
  (Verifier.leavesNothing_of_error (stage_unreadable hr he _)).mpr fun _ => rfl

theorem leavesNothing_empty (h : a.path = ⟨""⟩) : v.LeavesNothing run a t := by
  have hstage : Staged.stage t a.path a.render.toUTF8 = (.error .notFound, t) := by
    rw [h]
    exact stage_empty t _
  exact (Verifier.leavesNothing_of_error hstage).mpr fun _ => rfl

theorem tooLongBelowMissing_iff (h : Leads a.path absolute dirs name)
    (hr : t.read a.path = .error .notFound) :
    TooLongBelowMissing t a.path ↔ ¬Short (dirs ++ [name]) := by
  rw [TooLongBelowMissing, h.spells.parts, and_iff_right hr]
  simp only [Short, not_forall, exists_prop, Nat.not_le]

end

/-- **A trial leaves nothing behind, but for directories above a name that is too long.** For any
tree in which everything is in a directory, any path without points and double points, and any
command: what `LeavesNothing` says holds exactly when it is not the case that something above the
place is missing and a name on the path is too long. -/
theorem leavesNothing_iff (v : Verifier) {run : Builder} {a : Artifact} {t : FileTree}
    (ht : t.WellFormed) (hp : a.path.Plain) (hrun : KeepsTrees run) :
    v.LeavesNothing run a t ↔ ¬TooLongBelowMissing t a.path := by
  cases hr : t.read a.path with
  | ok old =>
    -- a file that can be read is never below something missing
    obtain ⟨absolute, dirs, name, h⟩ := leads_of_read hp hr
    refine iff_of_true (leavesNothing_over ht h hr) fun hlong => ?_
    rw [TooLongBelowMissing, hr] at hlong
    cases hlong.1
  | error e =>
    by_cases he : e = .notFound
    · subst he
      by_cases hleads : Usable a.path ∧ pathParts a.path ≠ []
      · obtain ⟨absolute, dirs, name, h⟩ := leads_of_plain hp hleads.1 hleads.2
        rw [tooLongBelowMissing_iff h hr, not_not]
        by_cases hshort : Short (dirs ++ [name])
        · exact iff_of_true (leavesNothing_new ht hrun h hr hshort) hshort
        · exact iff_of_false (not_leavesNothing_long ht h hr hshort) hshort
      · -- only the empty path has no names and leads nowhere, and staging does not get past it
        have hempty := eq_empty_of_notFound hr hleads
        refine iff_of_true (leavesNothing_empty hempty) ?_
        rintro ⟨-, part, hpart, -⟩
        rw [hempty] at hpart
        cases hpart
    · refine iff_of_true (leavesNothing_unreadable hr he) fun hlong => ?_
      rw [TooLongBelowMissing, hr] at hlong
      exact he (by simpa using hlong.1)

/-- A build that writes a log, unless there is one. -/
def loggingBuilder : Builder := fun _ _ _ _ t =>
  (.exited true .empty .empty,
    if t.node? ["build.log"] = none then t.put ["build.log"] (.file .empty) else t)

theorem keepsTrees_loggingBuilder : KeepsTrees loggingBuilder := by
  intro directory timeout program arguments t ht
  rw [loggingBuilder]
  by_cases hn : t.node? ["build.log"] = none
  · rw [if_pos hn]
    exact ht.put _ rfl (by rw [hn]; simp)
  · rw [if_neg hn]
    exact ht

theorem wellFormed_empty : FileTree.empty.WellFormed := by
  intro l n hl
  by_cases hnil : l = []
  · rw [hnil]
    rfl
  · rw [node?_of_ne_nil _ hnil] at hl
    cases hl

/-- A build that passes, in a new package. -/
theorem leavesNothing_new_package :
    let v : Verifier := ⟨⟨"."⟩, ["mvn", "test"], none, 600000⟩
    let a : Artifact := ⟨"shop", [], "class CartTest {}", "CartTest", ⟨"shop/CartTest.java"⟩⟩
    FileTree.empty.WellFormed ∧ a.path.Plain ∧ KeepsTrees loggingBuilder ∧
      ¬TooLongBelowMissing .empty a.path ∧ v.LeavesNothing loggingBuilder a .empty := by
  intro v a
  have hp : a.path.Plain := by decide +kernel
  have hshort : ¬TooLongBelowMissing .empty a.path := by
    rintro ⟨-, part, hpart, hlong⟩
    have hparts : pathParts a.path = ["shop", "CartTest.java"] := by decide +kernel
    rw [hparts] at hpart
    revert part
    decide +kernel
  exact ⟨wellFormed_empty, hp, keepsTrees_loggingBuilder, hshort,
    (leavesNothing_iff v wellFormed_empty hp keepsTrees_loggingBuilder).mpr hshort⟩

/-- A name of so many letters. -/
def nameOfLength (n : Nat) : String := String.ofList (List.replicate n 'x')

theorem utf8ByteSize_nameOfLength (n : Nat) : (nameOfLength n).utf8ByteSize = n := by
  induction n with
  | zero => rfl
  | succ n ih =>
    have hx : (String.singleton 'x').utf8ByteSize = 1 := rfl
    rw [nameOfLength] at ih ⊢
    rw [List.replicate_succ, String.ofList_cons, String.utf8ByteSize_append, ih, hx]
    omega

theorem isName_nameOfLength (n : Nat) : Path.IsName (nameOfLength (n + 3)) := by
  rw [Path.IsName, nameOfLength, String.toList_ofList]
  exact ⟨rfl, fun hm => absurd (List.eq_of_mem_replicate hm) (by decide)⟩

/-- The directory that was made for a test with too long a name stays. -/
theorem not_leavesNothing_long_name :
    let v : Verifier := ⟨⟨"."⟩, ["true"], none, 30000⟩
    let run : Builder := fun _ _ _ _ t => (.exited true .empty .empty, t)
    let a : Artifact := ⟨"", [], "class T {}", "T", .ofNames false ["a", nameOfLength 300]⟩
    FileTree.empty.WellFormed ∧ a.path.Plain ∧ KeepsTrees run ∧ ¬v.LeavesNothing run a .empty := by
  intro v run a
  have hnames : ∀ s ∈ ["a", nameOfLength 300], Path.IsName s := by
    intro s hs
    rcases List.mem_cons.mp hs with rfl | hs
    · exact ⟨rfl, by simp⟩
    · rw [List.mem_singleton.mp hs]
      exact isName_nameOfLength 297
  have htext : a.path.text = "a/" ++ nameOfLength 300 := rfl
  have hp : a.path.Plain := by
    intro c hc
    rw [Path.components_ofNames false hnames] at hc
    obtain ⟨s, -, rfl⟩ := List.mem_map.mp hc
    exact ⟨by simp, by simp⟩
  have hu : Usable a.path := by
    rw [Usable, htext]
    refine ⟨?_, ?_, ?_⟩
    · intro hempty
      have hsize := congrArg String.utf8ByteSize hempty
      rw [String.utf8ByteSize_append, utf8ByteSize_nameOfLength] at hsize
      revert hsize
      decide
    · have hletters : (nameOfLength 300).toList = List.replicate 300 'x' := String.toList_ofList
      rw [String.toList_append, hletters, List.mem_append, List.mem_replicate]
      decide
    · rw [String.utf8ByteSize_append, utf8ByteSize_nameOfLength]
      decide
  have hparts : pathParts a.path = ["a", nameOfLength 300] := Path.pathParts_ofNames false hnames
  have hne : pathParts a.path ≠ [] := by
    rw [hparts]
    exact List.cons_ne_nil _ _
  obtain ⟨absolute, dirs, name, h⟩ := leads_of_plain hp hu hne
  have hdirs := h.spells.parts.symm.trans hparts
  have hmissing : FileTree.empty.Missing (dirs ++ [name]) := by
    rw [hdirs]
    exact Or.inl rfl
  refine ⟨wellFormed_empty, hp, fun _ _ _ _ _ ht => ht, ?_⟩
  refine not_leavesNothing_long wellFormed_empty h (h.spells.read_of_missing hmissing) ?_
  rw [hdirs]
  intro hshort
  have hsize := hshort (nameOfLength 300) (by simp)
  rw [utf8ByteSize_nameOfLength] at hsize
  revert hsize
  decide

end Testsmith
