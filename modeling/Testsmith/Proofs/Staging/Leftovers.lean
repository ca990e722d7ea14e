/-
# Directories that a trial made and that stay

The directories that were made for a test are removed again, the deepest first, until one of them
cannot be. So a directory in which the build left something stays, with all that are above it
(`removeDirs_leaves`). Where the build itself removed the directory of the test, nothing is removed
at all (`removeDirs_gone`), and of the directories above it one may stay with nothing in it. That is
the only way, but for a name that is too long (`leavesNoEmptyDirs_iff`).

Key definitions: `Occupied`, `LeavesNoEmptyDirs`, `Empties`.
Key theorems: `removeDirs_leaves`, `leavesNoEmptyDirs_iff`.
-/
import Testsmith.Proofs.Staging.Trial

namespace Testsmith

open FileTree

/-- In the directory or in one below it on the way, there is something that is not on the way. -/
def Occupied (t : FileTree) (names m : Location) : Prop :=
  ∃ dir child, m <+: dir ∧ dir <+: names ∧ ¬dir ++ [child] <+: names ∧
    t.node? (dir ++ [child]) ≠ none

namespace Staged

/-- Of a way, the directories that have to be made go or stay, and nothing else changes. -/
theorem removeDirs_way_cases {t : FileTree} {absolute : Bool} {names : List String}
    (hs : ∀ ms, ms <+: names → ms ≠ [] → Spells (Path.ofNames absolute ms) ms) (x : FileTree)
    (l : Location) :
    let y := removeDirs x ((Path.dirsOf absolute names).takeWhile (unmade t))
    y.node? l = x.node? l ∨ y.node? l = none ∧ l <+: names := by
  have hframe := removeDirs_frame ((Path.dirsOf absolute names).takeWhile (unmade t)) x
    (fun dir hdir => by
      obtain ⟨ms, -, hspells, -⟩ := spells_of_mem_takeWhile hs hdir
      exact ⟨ms, hspells⟩) l
  refine hframe.imp_right fun ⟨hnone, dir, hdir, hl⟩ => ⟨hnone, ?_⟩
  obtain ⟨ms, hms, hspells, -⟩ := spells_of_mem_takeWhile hs hdir
  rwa [← hl.parts, hspells.parts]

/-- **A directory is removed unless something else is in it or below it.** The induction is on the
names, from the deepest directory upwards: one that is removed is no longer in the way of the next,
and one that is not keeps all above it. -/
theorem removeDirs_leaves {t x : FileTree} (ht : t.WellFormed) (hx : x.WellFormed) (absolute : Bool)
    (names : List String) (hs : ∀ ms, ms <+: names → ms ≠ [] → Spells (Path.ofNames absolute ms) ms)
    (hn : ∀ s ∈ names, Path.IsName s) (hshort : Short names)
    (hdir : x.node? names = some .directory) {m : Location} (hm : m <+: names)
    (hnone : t.node? m = none) :
    let y := removeDirs x ((Path.dirsOf absolute names).takeWhile (unmade t))
    y.node? m = none ∨ Occupied y names m := by
  induction names using List.reverseRecOn generalizing x with
  | nil =>
    rw [List.prefix_nil.mp hm] at hnone
    cases hnone
  | append_singleton ms name ih =>
    have hspells := hs _ (List.prefix_refl _) (by simp)
    have hbelow : t.node? (ms ++ [name]) = none := ht.below_none hnone hm
    have hfollow := hx.follow hspells.downward hshort (by rw [hdir]; simp)
    have hs' : ∀ ls, ls <+: ms → ls ≠ [] → Spells (Path.ofNames absolute ls) ls :=
      fun ls hls => hs ls (hls.trans (List.prefix_append _ _))
    rw [Path.dirsOf_concat, List.takeWhile_cons_of_pos (unmade_of_none hspells hbelow), removeDirs]
    by_cases hchild : ∃ child, x.node? ((ms ++ [name]) ++ [child]) ≠ none
    · obtain ⟨child, hchild⟩ := hchild
      right
      rw [hspells.removeDir_full hfollow hdir hchild]
      exact ⟨ms ++ [name], child, hm, List.prefix_refl _, not_prefix_concat _ [] child, hchild⟩
    · have hempty : ∀ child, x.node? ((ms ++ [name]) ++ [child]) = none := by
        simpa using hchild
      have hx' := hx.erase hempty
      have hdir' : (x.erase (ms ++ [name])).node? ms = some .directory := by
        rw [node?_erase_of_ne x (prefix_ne_concat (List.prefix_refl _))]
        exact hx.directory_of_concat (by rw [hdir]; simp)
      have hrest (hm : m <+: ms) := ih hx' hs' (fun s hsm => hn s (List.mem_append_left _ hsm))
        (short_concat.mp hshort).1 hdir' hm
      have hgone := removeDirs_way_cases (t := t) hs' (x.erase (ms ++ [name])) (ms ++ [name])
      rw [hspells.removeDir_empty hfollow hdir hempty (by simp) (getLast?_ofNames_concat hn)]
      dsimp only at hrest hgone ⊢
      generalize removeDirs (x.erase (ms ++ [name])) _ = y at hrest hgone ⊢
      rw [node?_erase_self x (by simp)] at hgone
      replace hgone : y.node? (ms ++ [name]) = none := hgone.elim id And.left
      rcases List.prefix_concat_iff.mp hm with hm | hm
      · rw [hm]
        exact Or.inl hgone
      · refine (hrest hm).imp_right ?_
        rintro ⟨dir, child, hle, hdir, hoff, hsome⟩
        refine ⟨dir, child, hle, hdir.trans (List.prefix_append _ _), fun hon => ?_, hsome⟩
        rcases List.prefix_concat_iff.mp hon with hon | hon
        · rw [hon] at hsome
          exact hsome hgone
        · exact hoff hon

/-- Where the deepest directory is gone, no directory is removed. -/
theorem removeDirs_gone {x : FileTree} {absolute : Bool} {names : List String}
    (hs : ∀ ms, ms <+: names → ms ≠ [] → Spells (Path.ofNames absolute ms) ms)
    (hgone : x.node? names = none) (made : Path → Bool) :
    removeDirs x ((Path.dirsOf absolute names).takeWhile made) = x := by
  rcases List.eq_nil_or_concat names with rfl | ⟨ms, name, rfl⟩
  · cases hgone
  rw [List.concat_eq_append] at hs hgone ⊢
  obtain ⟨e, he⟩ := (hs _ (List.prefix_refl _) (by simp)).removeDir_none hgone
  rw [Path.dirsOf_concat, List.takeWhile_cons]
  cases made (Path.ofNames absolute (ms ++ [name])) with
  | false => rfl
  | true => simp only [if_true, removeDirs, he]

end Staged

/-! ### What stays of the directories -/

/-- A directory on the way, other than the deepest, was made and has nothing in it now. -/
def Bared (t x : FileTree) (names : Location) : Prop :=
  ∃ m, m <+: names ∧ m ≠ names ∧ t.node? m = none ∧ x.node? m = some .directory ∧
    ∀ child, x.node? (m ++ [child]) = none

/-- Below a directory there is the end of the way, as far as there are directories. -/
theorem exists_end {x : FileTree} {names : List String}
    (habove : ∀ l, l <+: names → x.node? l = none ∨ x.node? l = some .directory)
    (hgone : x.node? names = none) : ∀ (rest : List String) {m : Location}, m ++ rest = names →
      x.node? m = some .directory →
      ∃ dir child, m <+: dir ∧ dir ++ [child] <+: names ∧ x.node? dir = some .directory ∧
        x.node? (dir ++ [child]) = none
  | [], m, heq, hm => by
    rw [List.append_nil] at heq
    rw [heq, hgone] at hm
    cases hm
  | part :: rest, m, heq, hm => by
    have hnext : m ++ [part] <+: names := ⟨rest, by rw [← heq]; simp⟩
    rcases habove _ hnext with hnone | hdir
    · exact ⟨m, part, List.prefix_refl _, hnext, hm, hnone⟩
    · obtain ⟨dir, child, hle, hon, hd, hn⟩ :=
        exists_end habove hgone rest (by rw [← heq]; simp) hdir
      exact ⟨dir, child, (List.prefix_append _ _).trans hle, hon, hd, hn⟩

section
variable {p : Path} {absolute : Bool} {dirs : List String} {name : String} {t x : FileTree}

/-- Of the directories that were made, those that stay are occupied, if the build bared none. -/
theorem occupied_of_stays (h : Leads p absolute dirs name) (ht : t.WellFormed)
    (hx : x.WellFormed) (hm : x.Missing (dirs ++ [name])) (hshort : Short dirs)
    (hbared : ¬Bared t x dirs) {m : Location} (hmade : m <+: dirs ∧ t.node? m = none) :
    let y := Staged.removeDirs x (Staged.missing t p)
    y.node? m ≠ some .directory ∨ Occupied y dirs m := by
  have habove (l : Location) (hl : l <+: dirs) : x.node? l = none ∨ x.node? l = some .directory :=
    hm.above hx h.spells.downward l (hl.trans (List.prefix_append _ _))
  rw [Staged.missing_eq, h.ancestors]
  rcases habove dirs (List.prefix_refl _) with hgone | hdir
  · -- nothing was removed, and what the build left in the last directory there keeps it
    rw [Staged.removeDirs_gone h.above hgone]
    rw [or_iff_not_imp_left, not_not]
    intro hstays
    obtain ⟨rest, hrest⟩ := hmade.1
    obtain ⟨dir, child, hle, hon, hd, hn⟩ := exists_end habove hgone rest hrest hstays
    have hdirs : dir <+: dirs := (List.prefix_append _ _).trans hon
    have hne : dir ≠ dirs := by
      rintro rfl
      exact not_prefix_concat dir [] child hon
    have hfull : ¬∀ child, x.node? (dir ++ [child]) = none := fun hempty =>
      hbared ⟨dir, hdirs, hne, ht.below_none hmade.2 hle, hd, hempty⟩
    obtain ⟨other, hother⟩ := not_forall.mp hfull
    refine ⟨dir, other, hle, hdirs, fun hon' => ?_, hother⟩
    have hsame : dir ++ [other] = dir ++ [child] :=
      (List.prefix_of_prefix_length_le hon' hon (by simp)).eq_of_length (by simp)
    rw [hsame] at hother
    exact hother hn
  · refine (Staged.removeDirs_leaves ht hx absolute dirs h.above h.isName hshort hdir hmade.1
      hmade.2).imp_left fun hnone => ?_
    rw [hnone]
    simp

/-- A directory that the build bared stays, with nothing below it. -/
theorem stays_of_bared (h : Leads p absolute dirs name) (hx : x.WellFormed)
    (hbared : Bared t x dirs) :
    let y := Staged.removeDirs x (Staged.missing t p)
    ∃ m, NeedsDir t (dirs ++ [name]) m ∧ y.node? m = some .directory ∧
      ∀ l, m <+: l → l ≠ m → y.node? l = none := by
  obtain ⟨m, hm, hne, hmade, hdir, hempty⟩ := hbared
  have hbelow (l : Location) (hl : m <+: l) (hlm : l ≠ m) : x.node? l = none := by
    obtain ⟨rest, rfl⟩ := hl
    cases rest with
    | nil => simp at hlm
    | cons part rest => exact hx.below_none (hempty part) ⟨rest, by simp⟩
  have hgone : x.node? dirs = none := hbelow dirs hm (Ne.symm hne)
  rw [Staged.missing_eq, h.ancestors, Staged.removeDirs_gone h.above hgone]
  exact ⟨m, needsDir_concat_iff.mpr ⟨hm, hmade⟩, hdir, hbelow⟩

end

/-! ### The trial -/

namespace Verifier

/-- The test was tried, and putting back what was there before fails. -/
def FailsToPutBack (v : Verifier) (run : Builder) (a : Artifact) (t : FileTree) : Prop :=
  ∃ staged u e, Staged.stage t a.path a.render.toUTF8 = (.ok staged, u) ∧
    (staged.putBack (v.build run a.testClass u).2).1 = .error e

/-- The build leaves something else at a location than it found there. -/
def Alters (v : Verifier) (run : Builder) (a : Artifact) (t : FileTree) (l : Location) : Prop :=
  ∃ staged u, Staged.stage t a.path a.render.toUTF8 = (.ok staged, u) ∧
    (v.build run a.testClass u).2.node? l ≠ u.node? l

/-- Unless putting back fails, each directory that has to be made for a trial is gone after it, or
there is something below it that the build put there. -/
def LeavesNoEmptyDirs (v : Verifier) (run : Builder) (a : Artifact) (t : FileTree) : Prop :=
  ¬v.FailsToPutBack run a t → ∀ m, NeedsDir t (pathParts a.path) m →
    let after := (v.verify run a t).2
    after.node? m ≠ some .directory ∨
      ∃ l, m <+: l ∧ l ≠ m ∧ after.node? l ≠ none ∧ v.Alters run a t l

/-- Of the directories that were made for a trial, the build leaves one with nothing in it that is
not the one for the test: the directory of the test is gone, and the build took it away. -/
def Empties (v : Verifier) (run : Builder) (a : Artifact) (t : FileTree) : Prop :=
  ∃ staged u, Staged.stage t a.path a.render.toUTF8 = (.ok staged, u) ∧
    Bared t (v.build run a.testClass u).2 (pathParts a.path).dropLast

theorem not_failsToPutBack_of_ok {v : Verifier} {run : Builder} {a : Artifact} {t : FileTree}
    {r : Verification} (h : (v.verify run a t).1 = .ok r) : ¬v.FailsToPutBack run a t := by
  rintro ⟨staged, u, e, hok, herror⟩
  cases hput : staged.putBack (v.build run a.testClass u).2 with
  | mk result w =>
    rw [hput] at herror
    dsimp only at herror
    subst herror
    rw [verify_putBack_error hok hput] at h
    cases h

section
variable {v : Verifier} {run : Builder} {a : Artifact} {t u : FileTree} {staged : Staged}
  (hstage : Staged.stage t a.path a.render.toUTF8 = (.ok staged, u))

include hstage

theorem not_failsToPutBack_of_staged
    (hput : (staged.putBack (v.build run a.testClass u).2).1 = .ok ()) :
    ¬v.FailsToPutBack run a t := by
  rintro ⟨staged', u', e, hok, herror⟩
  rw [hstage, Prod.mk.injEq, Except.ok.injEq] at hok
  rw [← hok.1, ← hok.2, hput] at herror
  cases herror

/-- For a test that was put in place, the tree after the build tells. -/
theorem empties_iff : v.Empties run a t ↔
    Bared t (v.build run a.testClass u).2 (pathParts a.path).dropLast := by
  refine ⟨fun ⟨staged', u', hok, hbared⟩ => ?_, fun hbared => ⟨_, _, hstage, hbared⟩⟩
  rw [hstage, Prod.mk.injEq] at hok
  rwa [← hok.2] at hbared

end

end Verifier

section
variable {v : Verifier} {run : Builder} {a : Artifact} {t u x : FileTree} {absolute : Bool}
  {dirs : List String} {name : String}

theorem not_needsDir (ht : t.WellFormed) {l m : Location} (hl : t.node? l ≠ none) :
    ¬NeedsDir t l m :=
  fun ⟨hm, _, hnone⟩ => hl (ht.below_none hnone hm)

variable (v run) in
/-- Where no test is put in place and nothing changes, no directory was made. -/
theorem leavesNoEmptyDirs_of_error {e : IoError}
    (hstage : Staged.stage t a.path a.render.toUTF8 = (.error e, u)) (hsame : u.Same t) :
    v.LeavesNoEmptyDirs run a t ∧ ¬v.Empties run a t := by
  refine ⟨fun _ m hm => Or.inl ?_, ?_⟩
  · have hafter : v.verify run a t = (.error (.io e), u) := by rw [Verifier.verify, hstage]
    rw [hafter, hsame m, hm.2.2]
    simp
  · rintro ⟨staged, w, hok, -⟩
    rw [hstage] at hok
    cases hok

variable (v run) in
/-- Over a file that is there, no directory was made. -/
theorem leavesNoEmptyDirs_over (ht : t.WellFormed)
    (hl : t.node? (pathParts a.path) ≠ none) :
    v.LeavesNoEmptyDirs run a t ∧ ¬v.Empties run a t := by
  refine ⟨fun _ m hm => absurd hm (not_needsDir ht hl), ?_⟩
  rintro ⟨-, -, -, m, hm, -, hnone, -⟩
  exact hl (ht.below_none hnone (hm.trans (List.dropLast_prefix _)))

/-- A name that is too long leaves a directory that no build put anything into. -/
theorem not_leavesNoEmptyDirs_long (ht : t.WellFormed) (h : Leads a.path absolute dirs name)
    (hr : t.read a.path = .error .notFound) (hlong : ¬Short (dirs ++ [name])) :
    ¬v.LeavesNoEmptyDirs run a t := by
  obtain ⟨u, hstage, m, hm, hnone, hdir⟩ := Staged.stage_long h ht hr hlong a.render.toUTF8
  have hafter : v.verify run a t = (.error (.io .nameTooLong), u) := by
    rw [Verifier.verify, hstage]
  have hrun : ∀ staged w, Staged.stage t a.path a.render.toUTF8 ≠ (.ok staged, w) := by
    intro staged w hok
    rw [hstage] at hok
    cases hok
  have hback : ¬v.FailsToPutBack run a t := by
    rintro ⟨staged, w, -, hok, -⟩
    exact hrun staged w hok
  intro hleaves
  have hneeds : NeedsDir t (pathParts a.path) m := by
    rw [h.spells.parts]
    exact needsDir_concat_iff.mpr ⟨hm, hnone⟩
  rcases hleaves hback m hneeds with hgone | hput
  · rw [hafter] at hgone
    exact hgone hdir
  · obtain ⟨-, -, -, -, staged, w, hok, -⟩ := hput
    exact hrun staged w hok

/-- Only the place itself matters less to what is bared. -/
theorem bared_congr {w : FileTree} (hsame : ∀ m, m ≠ dirs ++ [name] → x.node? m = w.node? m) :
    Bared t x dirs ↔ Bared t w dirs := by
  have hdir (m : Location) (hm : m <+: dirs) : x.node? m = w.node? m :=
    hsame m (prefix_ne_concat hm)
  have hchild (m : Location) (hne : m ≠ dirs) (child : String) :
      x.node? (m ++ [child]) = w.node? (m ++ [child]) := by
    refine hsame _ fun heq => hne ?_
    exact (List.append_inj' heq rfl).1
  refine exists_congr fun m => and_congr_right fun hm => and_congr_right fun hne => ?_
  rw [hdir m hm]
  exact and_congr_right fun _ => and_congr_right fun _ =>
    forall_congr' fun child => by rw [hchild m hne child]

/-- Names that lead on from nothing lead to nothing. -/
theorem missing_beyond {ms : List String} {part next : String} {rest : List String}
    (hf : x.follow (ms ++ [part]) = .ok (ms ++ [part])) (hn : x.node? (ms ++ [part]) = none) :
    x.Missing (ms ++ part :: next :: rest) := by
  have hstep : x.follow ((ms ++ [part]) ++ [next]) = .error .notFound := by
    rw [follow_concat, hf, Except.bind, FileTree.step, hn]
  left
  have heq : ms ++ part :: next :: rest = (ms ++ [part] ++ [next]) ++ rest := by simp
  rw [heq]
  exact follow_append_error hstep rest

/-- Where a directory is bared, the place cannot be reached, and nothing is there. -/
theorem missing_of_bared (hx : x.WellFormed) (hd : Downward (dirs ++ [name]))
    (hshort : Short (dirs ++ [name])) (hbared : Bared t x dirs) : x.Missing (dirs ++ [name]) := by
  obtain ⟨m, ⟨rest, rfl⟩, hne, -, hdir, hempty⟩ := hbared
  have hmd : Downward m := hd.left.left
  have hms : Short m := hshort.mono ⟨rest ++ [name], by simp⟩
  cases rest with
  | nil => simp at hne
  | cons part rest =>
    have hm : x.follow (m ++ [part]) = .ok (m ++ [part]) :=
      follow_concat_short (hx.follow hmd hms (by rw [hdir]; simp)) hdir (hd part (by simp))
        (hshort part (by simp))
    rw [List.append_assoc, List.cons_append]
    cases rest with
    | nil => exact missing_beyond hm (hempty part)
    | cons next rest => exact missing_beyond hm (hempty part)

/-- What is in a directory that was made, and not on the way, was put there by the build. -/
theorem changed_of_occupied (h : Leads a.path absolute dirs name) (ht : t.WellFormed)
    (content : ByteArray) {w y : FileTree} (hu : WithDirs t dirs u)
    (hx : x.Missing (dirs ++ [name])) (hxw : x.WellFormed)
    (hsame : ∀ m, m ≠ dirs ++ [name] → x.node? m = w.node? m)
    (hy : y = Staged.removeDirs x (Staged.missing t a.path)) {m : Location}
    (hnone : t.node? m = none) (hoccupied : Occupied y dirs m) :
    ∃ l, m <+: l ∧ l ≠ m ∧ y.node? l ≠ none ∧
      w.node? l ≠ (u.put (dirs ++ [name]) (.file content)).node? l := by
  obtain ⟨dir, child, hle, hdir, hoff, hsome⟩ := hoccupied
  refine ⟨dir ++ [child], hle.trans (List.prefix_append _ _),
    (prefix_ne_concat hle).symm, hsome, ?_⟩
  have hx' : x.node? (dir ++ [child]) ≠ none := by
    have hcases := Staged.removeDirs_way_cases (t := t) h.above x (dir ++ [child])
    rw [← h.ancestors, ← Staged.missing_eq, ← hy] at hcases
    rcases hcases with hcases | hcases
    · rwa [← hcases]
    · exact absurd hcases.1 hsome
  have hplace : dir ++ [child] ≠ dirs ++ [name] := by
    intro heq
    rw [heq] at hx'
    exact hx' (hx.node? hxw h.spells.downward)
  have hbefore : (u.put (dirs ++ [name]) (.file content)).node? (dir ++ [child]) = none := by
    rw [node?_put_of_ne u _ hplace, hu.kept _ (Or.inr hoff)]
    exact ht.below_none hnone (hle.trans (List.prefix_append _ _))
  rw [hbefore, ← hsame _ hplace]
  exact hx'

section
variable (ht : t.WellFormed) (h : Leads a.path absolute dirs name)

include h

/-- A directory that is bare cuts the file off, so that putting back removes nothing. -/
theorem not_leavesNoEmptyDirs_of_bared
    (hstage : Staged.stage t a.path a.render.toUTF8 =
      (.ok ⟨a.path, none, Staged.missing t a.path⟩, u))
    (hw : (v.build run a.testClass u).2.WellFormed) (hshort : Short (dirs ++ [name]))
    (hbared : Bared t (v.build run a.testClass u).2 dirs) : ¬v.LeavesNoEmptyDirs run a t := by
  have hmissing := missing_of_bared hw h.spells.downward hshort hbared
  have hback : (⟨a.path, none, Staged.missing t a.path⟩ : Staged).putBack
      (v.build run a.testClass u).2 =
        (.ok (), Staged.removeDirs (v.build run a.testClass u).2 (Staged.missing t a.path)) := by
    rw [Staged.putBack_none, h.spells.removeFile_of_missing hmissing]
  have hputs : ¬v.FailsToPutBack run a t :=
    Verifier.not_failsToPutBack_of_staged hstage (by rw [hback])
  obtain ⟨m, hneeds, hdir, hbelow⟩ := stays_of_bared h hw hbared
  intro hleaves
  rw [Verifier.LeavesNoEmptyDirs, Verifier.verify_putBack_ok hstage hback, h.spells.parts] at hleaves
  rcases hleaves hputs m hneeds with hgone | ⟨l, hml, hne, hsome, -⟩
  · exact hgone hdir
  · exact hsome (hbelow l hml hne)

include ht

/-- Where no directory is bare, those that were made go or are kept by the build. -/
theorem leavesNoEmptyDirs_of_not_bared (hu : WithDirs t dirs u)
    (hstage : Staged.stage t a.path a.render.toUTF8 =
      (.ok ⟨a.path, none, Staged.missing t a.path⟩,
        u.put (dirs ++ [name]) (.file a.render.toUTF8)))
    {w : FileTree} (hw : w.WellFormed) (hshort : Short dirs)
    (hbuilt : (v.build run a.testClass (u.put (dirs ++ [name]) (.file a.render.toUTF8))).2 = w)
    (hbared : ¬Bared t w dirs) : v.LeavesNoEmptyDirs run a t := by
  intro hputs m hneeds
  cases hback : (⟨a.path, none, Staged.missing t a.path⟩ : Staged).putBack w with
  | mk result y =>
    cases result with
    | error e => exact absurd ⟨_, _, e, hstage, by rw [hbuilt, hback]⟩ hputs
    | ok _ =>
      have hafter := Verifier.verify_putBack_ok hstage (by rw [hbuilt]; exact hback)
      obtain ⟨x, hx, hmissing, hkept, hy⟩ := Staged.putBack_none_ok h hw hback
      rw [h.spells.parts] at hneeds
      have hmade := needsDir_concat_iff.mp hneeds
      have hstays := occupied_of_stays h ht hx hmissing hshort
        (fun hbare => hbared ((bared_congr hkept).mp hbare)) hmade
      rw [hafter]
      dsimp only
      rw [← hy] at hstays
      refine hstays.imp_right fun hoccupied => ?_
      obtain ⟨l, hml, hne, hsome, hchanged⟩ := changed_of_occupied h ht a.render.toUTF8
        hu hmissing hx hkept hy hmade.2 hoccupied
      exact ⟨l, hml, hne, hsome, _, _, hstage, by rwa [hbuilt]⟩

end

/-- In a new place, the directories that were made go or are kept by the build, unless the build
leaves one of them bare. -/
theorem leavesNoEmptyDirs_new (ht : t.WellFormed) (hrun : KeepsTrees run)
    (h : Leads a.path absolute dirs name) (hr : t.read a.path = .error .notFound)
    (hshort : Short (dirs ++ [name])) : v.LeavesNoEmptyDirs run a t ↔ ¬v.Empties run a t := by
  have hm := Staged.read_notFound h hr
  rcases Staged.stage_new h ht hr hshort a.render.toUTF8 with
    ⟨u, hstage, hsame⟩ | ⟨u, hstage, hu, -⟩
  · obtain ⟨hleaves, hempties⟩ := leavesNoEmptyDirs_of_error v run hstage hsame
    exact iff_of_true hleaves hempties
  have hfree : u.node? (dirs ++ [name]) = none := by
    rw [hu.kept _ (Or.inr (not_prefix_concat dirs [] name)), hm.node? ht h.spells.downward]
  have hstaged : (u.put (dirs ++ [name]) (.file a.render.toUTF8)).WellFormed := by
    refine (hu.wellFormed ht).put _ ?_ (by rw [hfree]; simp)
    rw [List.dropLast_concat]
    exact hu.dirs dirs (List.prefix_refl _)
  have hw := v.build_wellFormed hrun a.testClass hstaged
  rw [Verifier.empties_iff hstage, h.spells.parts, List.dropLast_concat]
  exact ⟨fun hleaves hbared => not_leavesNoEmptyDirs_of_bared h hstage hw hshort hbared hleaves,
    leavesNoEmptyDirs_of_not_bared ht h hu hstage hw (short_concat.mp hshort).1 rfl⟩

end

/-- **Of the directories made for a trial none stays with nothing of the build in it, unless the
build itself took away the directory of the test.** For any tree in which everything is in a
directory, any path without points and double points and any command: what `LeavesNoEmptyDirs` says
holds exactly when no name on the path is too long with something above it missing, and the build
does not bare a directory above that of the test. -/
theorem leavesNoEmptyDirs_iff (v : Verifier) {run : Builder} {a : Artifact} {t : FileTree}
    (ht : t.WellFormed) (hp : a.path.Plain) (hrun : KeepsTrees run) :
    v.LeavesNoEmptyDirs run a t ↔ ¬TooLongBelowMissing t a.path ∧ ¬v.Empties run a t := by
  cases hr : t.read a.path with
  | ok old =>
    obtain ⟨absolute, dirs, name, h⟩ := leads_of_read hp hr
    obtain ⟨-, -, hn⟩ := Staged.stage_over h hr a.render.toUTF8
    obtain ⟨hleaves, hempties⟩ := leavesNoEmptyDirs_over v run (a := a) ht
      (by rw [h.spells.parts, hn]; simp)
    refine iff_of_true hleaves ⟨fun hlong => ?_, hempties⟩
    rw [TooLongBelowMissing, hr] at hlong
    cases hlong.1
  | error e =>
    by_cases he : e = .notFound
    · subst he
      by_cases hleads : Usable a.path ∧ pathParts a.path ≠ []
      · obtain ⟨absolute, dirs, name, h⟩ := leads_of_plain hp hleads.1 hleads.2
        rw [tooLongBelowMissing_iff h hr, not_not]
        by_cases hshort : Short (dirs ++ [name])
        · rw [and_iff_right hshort]
          exact leavesNoEmptyDirs_new ht hrun h hr hshort
        · exact iff_of_false (not_leavesNoEmptyDirs_long ht h hr hshort) fun hs => hshort hs.1
      · have hempty := eq_empty_of_notFound hr hleads
        have hstage : Staged.stage t a.path a.render.toUTF8 = (.error .notFound, t) := by
          rw [hempty]
          exact stage_empty t _
        obtain ⟨hleaves, hempties⟩ :=
          leavesNoEmptyDirs_of_error v run hstage fun _ => rfl
        refine iff_of_true hleaves ⟨?_, hempties⟩
        rintro ⟨-, part, hpart, -⟩
        rw [hempty] at hpart
        cases hpart
    · obtain ⟨hleaves, hempties⟩ := leavesNoEmptyDirs_of_error v run
        (stage_unreadable hr he a.render.toUTF8) fun _ => rfl
      refine iff_of_true hleaves ⟨fun hlong => ?_, hempties⟩
      rw [TooLongBelowMissing, hr] at hlong
      exact he (by simpa using hlong.1)

/-- A build that leaves a report beside the package and takes the package away. -/
def packagingBuilder : Builder := fun _ _ _ _ t =>
  (.exited true .empty .empty,
    if (t.prune ["shop", "cart"]).node? ["shop"] = some .directory ∧
        (t.prune ["shop", "cart"]).node? ["shop", "report.xml"] = none then
      (t.prune ["shop", "cart"]).put ["shop", "report.xml"] (.file .empty)
    else t.prune ["shop", "cart"])

theorem keepsTrees_packagingBuilder : KeepsTrees packagingBuilder := by
  intro directory timeout program arguments t ht
  have hpruned := ht.prune ["shop", "cart"]
  rw [packagingBuilder]
  dsimp only
  split
  · rename_i hfree
    exact hpruned.put _ hfree.1 (by rw [hfree.2]; simp)
  · exact hpruned

/-- The package is gone, and the directory above it is kept by the report in it. -/
theorem leavesNoEmptyDirs_packaged :
    let v : Verifier := ⟨⟨"."⟩, ["mvn", "test"], none, 600000⟩
    let a : Artifact := ⟨"shop.cart", [], "class CartTest {}", "CartTest",
      ⟨"shop/cart/CartTest.java"⟩⟩
    FileTree.empty.WellFormed ∧ a.path.Plain ∧ KeepsTrees packagingBuilder ∧
      ¬TooLongBelowMissing .empty a.path ∧ ¬v.Empties packagingBuilder a .empty ∧
      v.LeavesNoEmptyDirs packagingBuilder a .empty := by
  intro v a
  have hp : a.path.Plain := by decide +kernel
  have hparts : pathParts a.path = ["shop", "cart", "CartTest.java"] := by decide +kernel
  have hshort : ¬TooLongBelowMissing .empty a.path := by
    rintro ⟨-, part, hpart, hlong⟩
    rw [hparts] at hpart
    revert part
    decide +kernel
  have hempties : ¬v.Empties packagingBuilder a .empty := by
    have hreport : (v.build packagingBuilder a.testClass
        (Staged.stage .empty a.path a.render.toUTF8).2).2.node? ["shop", "report.xml"] =
          some (.file .empty) := by decide +kernel
    rintro ⟨staged, u, hok, m, ⟨rest, hrest⟩, hne, hnone, -, hempty⟩
    rw [hok] at hreport
    rw [hparts] at hrest hne
    -- the only directory that was made, other than that of the test
    match m with
    | [] => cases hnone
    | [shop] =>
      obtain ⟨rfl, -⟩ : shop = "shop" ∧ _ := List.cons.inj hrest
      have hgone := hempty "report.xml"
      rw [List.singleton_append, hreport] at hgone
      cases hgone
    | shop :: cart :: more =>
      obtain ⟨rfl, rfl, rfl, -⟩ : shop = "shop" ∧ cart = "cart" ∧ more = [] ∧ rest = [] := by
        simpa using hrest
      exact hne rfl
  exact ⟨wellFormed_empty, hp, keepsTrees_packagingBuilder, hshort, hempties,
    (leavesNoEmptyDirs_iff v wellFormed_empty hp keepsTrees_packagingBuilder).mpr
      ⟨hshort, hempties⟩⟩

/-- The directory that held the package stays when the build removes the package. -/
theorem not_leavesNoEmptyDirs_cleaned :
    let v : Verifier := ⟨⟨"."⟩, ["sh", "-c", "rm -r a/b"], none, 30000⟩
    let run : Builder := fun _ _ _ _ t => (.exited true .empty .empty, t.prune ["a", "b"])
    let a : Artifact := ⟨"", [], "class T {}", "T", ⟨"a/b/T.java"⟩⟩
    FileTree.empty.WellFormed ∧ a.path.Plain ∧ KeepsTrees run ∧
      v.verify run a .empty = (.ok ⟨true, ""⟩, ⟨[(["a"], .directory)]⟩) ∧
      ¬v.LeavesNoEmptyDirs run a .empty := by
  intro v run a
  have hp : a.path.Plain := by decide +kernel
  have hparts : pathParts a.path = ["a", "b", "T.java"] := by decide +kernel
  have hafter : v.verify run a .empty = (.ok ⟨true, ""⟩, ⟨[(["a"], .directory)]⟩) := by
    refine Prod.ext (by decide +kernel) ?_
    have hentries : (v.verify run a .empty).2.entries = [(["a"], .directory)] := by decide +kernel
    rw [← hentries]
  refine ⟨wellFormed_empty, hp, fun _ _ _ _ t ht => ht.prune _, hafter, fun hleaves => ?_⟩
  have hneeds : NeedsDir .empty (pathParts a.path) ["a"] := by
    rw [hparts]
    exact ⟨⟨["b", "T.java"], rfl⟩, by decide, rfl⟩
  have hputs : ¬v.FailsToPutBack run a .empty :=
    Verifier.not_failsToPutBack_of_ok (by rw [hafter])
  rw [Verifier.LeavesNoEmptyDirs, hafter] at hleaves
  rcases hleaves hputs ["a"] hneeds with hgone | ⟨l, hml, hne, hsome, -⟩
  · exact hgone rfl
  · have hnil : l ≠ [] := by
      rintro rfl
      cases List.prefix_nil.mp hml
    refine hsome ?_
    rw [node?_of_ne_nil _ hnil, List.lookup_cons, beq_eq_false_iff_ne.mpr hne]
    rfl

end Testsmith
