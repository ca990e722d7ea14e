/-
# Making and removing

The directories on the way of names are made from the top down (`WithDirs`). When the names lead to
nothing and are all short, every one of them is made and nothing else changes. When one of them is
too long, those above it are made all the same and stay (`makeDirsWithin_of_missing`). Writing and
removing a file and removing a directory change one location, the one that the path spells.

Key definitions: `WithDirs`, `Made`.
Key theorems: `makeDirsWithin_of_missing`, `write_ok`, `removeFile_ok`, `removeDir_ok`.
-/
import Testsmith.Proofs.Files.Additions
import Testsmith.Proofs.Files.Follow

namespace Testsmith
namespace FileTree

/-- The tree with directories all the way along the names, and nothing else changed. -/
structure WithDirs (t : FileTree) (names : List String) (u : FileTree) : Prop where
  dirs : ∀ l, l <+: names → u.node? l = some .directory
  kept : ∀ l, t.node? l ≠ none ∨ ¬l <+: names → u.node? l = t.node? l

theorem not_prefix_concat {α : Type} (l m : List α) (a : α) : ¬l ++ a :: m <+: l := by
  intro h
  have hlen := h.length_le
  rw [List.length_append, List.length_cons] at hlen
  omega

theorem prefix_ne_concat {α : Type} {l m : List α} {a : α} (h : l <+: m) : l ≠ m ++ [a] := by
  rintro rfl
  exact not_prefix_concat m [] a h

/-- A tree that has the directories already. -/
theorem WithDirs.refl {t : FileTree} {names : List String}
    (h : ∀ l, l <+: names → t.node? l = some .directory) : WithDirs t names t :=
  ⟨h, fun _ _ => rfl⟩

/-- One more directory below the last. -/
theorem WithDirs.put {t u : FileTree} {ms : List String} {name : String} (h : WithDirs t ms u)
    (hn : t.node? (ms ++ [name]) = none) :
    WithDirs t (ms ++ [name]) (u.put (ms ++ [name]) .directory) := by
  refine ⟨fun l hl => ?_, fun l hl => ?_⟩
  · rcases List.prefix_concat_iff.mp hl with rfl | hl
    · exact node?_put_self u _ (by simp)
    · rw [node?_put_of_ne u _ (prefix_ne_concat hl)]
      exact h.dirs l hl
  · have hne : l ≠ ms ++ [name] := by
      rintro rfl
      rcases hl with hl | hl
      · exact hl hn
      · exact hl (List.prefix_refl _)
    rw [node?_put_of_ne u _ hne]
    exact h.kept l (hl.imp_right fun hl hp => hl (hp.trans (List.prefix_append _ _)))

/-- The last directory, which was not there before, is removed again. -/
theorem WithDirs.erase {t u : FileTree} {ms : List String} {name : String}
    (h : WithDirs t (ms ++ [name]) u) (hn : t.node? (ms ++ [name]) = none) :
    WithDirs t ms (u.erase (ms ++ [name])) := by
  refine ⟨fun l hl => ?_, fun l hl => ?_⟩
  · rw [node?_erase_of_ne u (prefix_ne_concat hl)]
    exact h.dirs l (hl.trans (List.prefix_append _ _))
  · by_cases hle : l = ms ++ [name]
    · rw [hle, node?_erase_self u (by simp), hn]
    · rw [node?_erase_of_ne u hle]
      refine h.kept l (hl.imp_right fun hl hp => ?_)
      rcases List.prefix_concat_iff.mp hp with hp | hp
      · exact hle hp
      · exact hl hp

/-- Where the last directory was there before, so were all, and nothing is changed. -/
theorem WithDirs.same {t u : FileTree} {names : List String} (h : WithDirs t names u)
    (ht : t.WellFormed) (hdir : t.node? names = some .directory) : u.Same t := by
  intro l
  refine h.kept l ?_
  by_cases hp : l <+: names
  · left
    obtain ⟨rest, rfl⟩ := hp
    by_cases hrest : rest = []
    · rw [hrest, List.append_nil] at hdir
      simp [hdir]
    · rw [ht.directory_above l rest hrest (by simp [hdir])]
      simp
  · exact Or.inr hp

theorem WithDirs.wellFormed {t u : FileTree} {names : List String} (ht : t.WellFormed)
    (h : WithDirs t names u) : u.WellFormed := by
  intro l n hl
  by_cases hp : l <+: names
  · exact h.dirs _ ((List.dropLast_prefix l).trans hp)
  · rw [h.kept l (Or.inr hp)] at hl
    have habove := ht l n hl
    rw [h.kept _ (Or.inl (by rw [habove]; simp)), habove]

theorem WithDirs.follow {t u : FileTree} {names : List String} (h : WithDirs t names u)
    (hd : Downward names) (hs : Short names) : u.follow names = .ok names :=
  follow_eq_ok hd hs fun l hl _ => h.dirs l hl

/-! ### One directory -/

section
variable {t : FileTree} {p : Path} (h : Usable p) {l : Location}

include h

theorem ensureDir_of_error {e : IoError} (hf : t.follow (pathParts p) = .error e) :
    t.ensureDir p = .error e := by
  have hl : t.locate p = .error e := locate_of_error h hf
  have hmake : t.makeDir p = .error e := by
    rw [makeDir, hl]
    rfl
  have hno : t.hasDirectory p = false := by
    rw [hasDirectory, find, hl]
    rfl
  rw [ensureDir, hmake, hno]
  rfl

theorem ensureDir_of_directory (hf : t.follow (pathParts p) = .ok l)
    (hn : t.node? l = some .directory) : t.ensureDir p = .ok t := by
  have hl : t.locate p = .ok l := locate_of_ok h hf (by simp [hn])
  have hmake : t.makeDir p = .error .alreadyThere := by
    rw [makeDir, hl]
    simp only [bind, Except.bind, hn]
  have hyes : t.hasDirectory p = true := by
    rw [hasDirectory, find, hl]
    simp only [bind, Except.bind, hn]
  rw [ensureDir, hmake, hyes]
  rfl

theorem ensureDir_of_none (hf : t.follow (pathParts p) = .ok l) (hn : t.node? l = none) :
    t.ensureDir p = .ok (t.put l .directory) := by
  have hmake : t.makeDir p = .ok (t.put l .directory) := by
    rw [makeDir, locate_of_ok h hf (by simp [hn])]
    simp only [bind, Except.bind, hn]
  rw [ensureDir, hmake]

theorem ensureDir_of_file (hf : t.follow (pathParts p) = .ok l) {content : ByteArray}
    (hn : t.node? l = some (.file content)) : t.ensureDir p =
      .error (if endsAsDirectory p then .notDirectory else .alreadyThere) := by
  have hl := locate_eq t h
  rw [hf, Except.bind, hn] at hl
  cases hd : endsAsDirectory p with
  | true =>
    rw [hd] at hl
    rw [ensureDir, makeDir, hasDirectory, find, hl]
    rfl
  | false =>
    rw [hd] at hl
    have hmake : t.makeDir p = .error .alreadyThere := by
      rw [makeDir, hl]
      simp only [bind, Except.bind, hn]
    have hno : t.hasDirectory p = false := by
      rw [hasDirectory, find, hl]
      simp only [bind, Except.bind, hn]
    rw [ensureDir, hmake, hno]
    rfl

end

namespace Spells

variable {p : Path} {names : List String} (h : Spells p names) {t : FileTree}

include h

theorem ensureDir_error {e : IoError} (hf : t.follow names = .error e) :
    t.ensureDir p = .error e :=
  ensureDir_of_error h.usable (by rw [h.parts, hf])

theorem ensureDir_there (hf : t.follow names = .ok names) (hn : t.node? names = some .directory) :
    t.ensureDir p = .ok t :=
  ensureDir_of_directory h.usable (by rw [h.parts, hf]) hn

theorem ensureDir_new (hf : t.follow names = .ok names) (hn : t.node? names = none) :
    t.ensureDir p = .ok (t.put names .directory) :=
  ensureDir_of_none h.usable (by rw [h.parts, hf]) hn

end Spells

theorem follow_concat_long {t : FileTree} {ms : List String} {name : String}
    (hf : t.follow ms = .ok ms) (hn : t.node? ms = some .directory) (hup : name ≠ "..")
    (hlong : nameLimit < name.utf8ByteSize) : t.follow (ms ++ [name]) = .error .nameTooLong := by
  rw [follow_concat, hf, Except.bind, step_directory hn hup, if_pos hlong]

theorem follow_concat_short {t : FileTree} {ms : List String} {name : String}
    (hf : t.follow ms = .ok ms) (hn : t.node? ms = some .directory) (hup : name ≠ "..")
    (hshort : name.utf8ByteSize ≤ nameLimit) : t.follow (ms ++ [name]) = .ok (ms ++ [name]) := by
  rw [follow_concat, hf, Except.bind, step_directory hn hup, if_neg (Nat.not_lt.mpr hshort)]

theorem short_concat {ms : List String} {name : String} :
    Short (ms ++ [name]) ↔ Short ms ∧ name.utf8ByteSize ≤ nameLimit := by
  simp [Short, or_imp, forall_and]

/-! ### All directories on the way -/

/-- What making directories comes to where there are none: all of them, or, when a name is too long,
those above it. -/
structure Made (t : FileTree) (names : List String)
    (r : Except IoError Unit × FileTree) : Prop where
  all : Short names → r.1 = .ok () ∧ WithDirs t names r.2
  part : ¬Short names → r.1 = .error .nameTooLong ∧ r.2.follow names = .error .nameTooLong ∧
    ∃ l, l <+: names ∧ t.node? l = none ∧ r.2.node? l = some .directory

/-- Names that lead to nothing get their directories, one after the other. -/
theorem makeDirsWithin_of_missing {t : FileTree} (ht : t.WellFormed) (absolute : Bool) :
    ∀ (bound : Nat) (names : List String), names.length < bound →
      (∀ ms, ms <+: names → ms ≠ [] → Spells (Path.ofNames absolute ms) ms) →
      (∀ s ∈ names, Path.IsName s) → t.Missing names →
        Made t names (t.makeDirsWithin bound (Path.ofNames absolute names))
  | 0, names, hb, _, _, _ => absurd hb (Nat.not_lt_zero _)
  | bound + 1, names, hb, hs, hn, hm => by
    rcases List.eq_nil_or_concat names with rfl | ⟨ms, name, rfl⟩
    · rcases hm with hm | hm <;> simp [follow, pure, Except.pure] at hm
    rw [List.concat_eq_append] at hb hs hn hm ⊢
    have hspells := hs _ (List.prefix_refl _) (by simp)
    have hd := hspells.downward
    have hempty : (Path.ofNames absolute (ms ++ [name])).text.isEmpty = false := by
      simpa using hspells.usable.1
    have hnode := hm.node? ht hd
    rcases hm with hf | ⟨hf, -⟩
    · -- what is above is not there either and is made first
      have hmissing := missing_of_notFound hd hf
      have hmade := makeDirsWithin_of_missing ht absolute bound ms
        (by rw [List.length_append, List.length_singleton] at hb; omega)
        (fun ls hls => hs ls (hls.trans (List.prefix_append _ _)))
        (fun s hsm => hn s (List.mem_append_left _ hsm)) hmissing
      rw [makeDirsWithin, hempty, hspells.ensureDir_error hf,
        Path.parent?_ofNames_concat absolute hn]
      simp only [Bool.false_eq_true, if_false]
      generalize t.makeDirsWithin bound (Path.ofNames absolute ms) = r at hmade ⊢
      obtain ⟨result, u⟩ := r
      by_cases hshort : Short ms
      · obtain ⟨hok, hwith⟩ := hmade.all hshort
        simp only at hok hwith
        subst hok
        dsimp only
        have hfu := hwith.follow hd.left hshort
        have hdir := hwith.dirs ms (List.prefix_refl _)
        by_cases hname : name.utf8ByteSize ≤ nameLimit
        · have hnone : u.node? (ms ++ [name]) = none := by
            rw [hwith.kept _ (Or.inr (not_prefix_concat ms [] name)), hnode]
          rw [hspells.ensureDir_new (follow_concat_short hfu hdir (hd name (by simp)) hname) hnone]
          exact ⟨fun _ => ⟨rfl, hwith.put hnode⟩,
            fun h => absurd (short_concat.mpr ⟨hshort, hname⟩) h⟩
        · have hlong := follow_concat_long hfu hdir (hd name (by simp)) (Nat.not_le.mp hname)
          rw [hspells.ensureDir_error hlong]
          refine ⟨fun h => absurd (short_concat.mp h).2 hname,
            fun _ => ⟨rfl, hlong, ms, ?_, ?_, hdir⟩⟩
          · exact List.prefix_append _ _
          · exact hmissing.node? ht hd.left
      · obtain ⟨herror, hlong, l, hl, hleft⟩ := hmade.part hshort
        simp only at herror hlong hleft
        subst herror
        refine ⟨fun h => absurd (short_concat.mp h).1 hshort,
          fun _ => ⟨rfl, ?_, l, hl.trans (List.prefix_append _ _), hleft⟩⟩
        exact follow_append_error hlong _
    · -- only the last directory is not there
      rw [makeDirsWithin, hempty, hspells.ensureDir_new hf hnode]
      simp only [Bool.false_eq_true, if_false]
      obtain ⟨hshort, habove⟩ := directory_of_follow hd hf
      have hwith : WithDirs t ms t := .refl fun l hl =>
        habove l (hl.trans (List.prefix_append _ _)) (prefix_ne_concat hl)
      exact ⟨fun _ => ⟨rfl, hwith.put hnode⟩, fun h => absurd hshort h⟩

/-- The top, as a path. -/
theorem spells_top : Spells (Path.ofNames true []) [] := by
  refine ⟨⟨by simp [Path.ofNames], by simp [Path.ofNames], by decide⟩, ?_, by simp [Downward]⟩
  exact Path.pathParts_ofNames true (by simp)

namespace Leads

variable {p : Path} {absolute : Bool} {dirs : List String} {name : String}
  (h : Leads p absolute dirs name) {t : FileTree}

include h

theorem withDirs_refl (hf : t.follow (dirs ++ [name]) = .ok (dirs ++ [name])) :
    Short dirs ∧ WithDirs t dirs t := by
  obtain ⟨hshort, habove⟩ := directory_of_follow h.spells.downward hf
  refine ⟨(short_concat.mp hshort).1, .refl fun l hl => ?_⟩
  exact habove l (hl.trans (List.prefix_append _ _)) (prefix_ne_concat hl)

/-- Where the directory is there, none is made. -/
theorem makeDirs_there (hf : t.follow (dirs ++ [name]) = .ok (dirs ++ [name])) :
    t.makeDirs (Path.ofNames absolute dirs) = (.ok (), t) := by
  obtain ⟨hshort, hwith⟩ := h.withDirs_refl hf
  rw [FileTree.makeDirs]
  by_cases hempty : (Path.ofNames absolute dirs).text.isEmpty = true
  · rw [makeDirsWithin, if_pos hempty]
  · have hspells : Spells (Path.ofNames absolute dirs) dirs := by
      by_cases hnil : dirs = []
      · subst hnil
        cases absolute with
        | true => exact spells_top
        | false => exact absurd rfl hempty
      · exact h.above dirs (List.prefix_refl _) hnil
    rw [makeDirsWithin, if_neg hempty,
      hspells.ensureDir_there (hwith.follow h.downward_dirs hshort)
        (hwith.dirs dirs (List.prefix_refl _))]

/-- The directories for a file that is not there. -/
theorem makeDirs_of_missing (ht : t.WellFormed) (hm : t.Missing (dirs ++ [name])) :
    Made t dirs (t.makeDirs (Path.ofNames absolute dirs)) := by
  have hd := h.spells.downward
  rcases hm with hf | ⟨hf, -⟩
  · rw [FileTree.makeDirs, Path.components_ofNames absolute h.isName]
    refine makeDirsWithin_of_missing ht absolute _ dirs ?_ h.above h.isName
      (missing_of_notFound hd hf)
    rw [List.length_append, List.length_map]
    omega
  · obtain ⟨hshort, hwith⟩ := h.withDirs_refl hf
    rw [h.makeDirs_there hf]
    exact ⟨fun _ => ⟨rfl, hwith⟩, fun hlong => absurd hshort hlong⟩

end Leads

/-! ### Files and directories that are written and removed -/

theorem write_over {t : FileTree} {p : Path} {l : Location} {old : ByteArray}
    (hl : t.locate p = .ok l) (hn : t.node? l = some (.file old)) (content : ByteArray) :
    t.write p content = .ok (t.put l (.file content)) := by
  rw [write, hl]
  simp only [bind, Except.bind, hn]

theorem removeFile_file {t : FileTree} {p : Path} {l : Location} {content : ByteArray}
    (hl : t.locate p = .ok l)
    (hn : t.node? l = some (.file content)) : t.removeFile p = .ok (t.erase l) := by
  rw [removeFile, find, hl]
  simp only [bind, Except.bind, hn]

namespace Spells

variable {p : Path} {names : List String} (h : Spells p names) {t : FileTree}

include h

theorem write_error {e : IoError} (hf : t.follow names = .error e) (content : ByteArray) :
    t.write p content = .error e := by
  rw [write, h.locate_error hf]
  rfl

theorem write_new (hf : t.follow names = .ok names) (hn : t.node? names = none)
    (content : ByteArray) : t.write p content = if endsAsDirectory p then .error .isDirectory
      else .ok (t.put names (.file content)) := by
  rw [write, h.locate_of_not_file hf (by simp [hn])]
  simp only [bind, Except.bind, hn]

theorem write_ok {content : ByteArray} {u : FileTree} (hw : t.write p content = .ok u) :
    t.locate p = .ok names ∧ u = t.put names (.file content) ∧ t.node? names ≠ some .directory := by
  obtain ⟨l, hl, -, hn, hu⟩ := FileTree.write_ok hw
  obtain ⟨rfl, -⟩ := h.locate_ok hl
  exact ⟨hl, hu, hn⟩

theorem removeFile_error {e : IoError} (hf : t.follow names = .error e) :
    t.removeFile p = .error e := by
  rw [removeFile, h.find_error hf]
  rfl

theorem removeFile_of_missing (hm : t.Missing names) : t.removeFile p = .error .notFound := by
  rw [removeFile, h.find_of_missing hm]
  rfl

theorem removeFile_ok {u : FileTree} (hr : t.removeFile p = .ok u) : u = t.erase names := by
  rw [removeFile] at hr
  cases hk : t.find p with
  | error e =>
    rw [hk] at hr
    cases hr
  | ok found =>
    obtain ⟨k, n⟩ := found
    obtain ⟨rfl, -⟩ := h.find_ok hk
    rw [hk] at hr
    cases n with
    | directory => cases hr
    | file content => exact (Except.ok.inj hr).symm

theorem missing_of_removeFile (hr : t.removeFile p = .error .notFound) : t.Missing names := by
  rw [removeFile] at hr
  cases hk : t.find p with
  | error e =>
    rw [hk] at hr
    cases hr
    exact h.find_notFound hk
  | ok found =>
    obtain ⟨k, n⟩ := found
    rw [hk] at hr
    cases n <;> cases hr

theorem file_of_removeFile {u : FileTree} (hr : t.removeFile p = .ok u) :
    ∃ content, t.follow names = .ok names ∧ t.node? names = some (.file content) := by
  rw [removeFile] at hr
  cases hk : t.find p with
  | error e =>
    rw [hk] at hr
    cases hr
  | ok found =>
    obtain ⟨k, n⟩ := found
    obtain ⟨-, -, hf, hn⟩ := h.find_ok hk
    rw [hk] at hr
    cases n with
    | directory => cases hr
    | file content => exact ⟨content, hf, hn⟩

theorem removeDir_none (hn : t.node? names = none) : ∃ e, t.removeDir p = .error e := by
  rw [removeDir]
  cases hk : t.find p with
  | error e => exact ⟨e, rfl⟩
  | ok found =>
    obtain ⟨k, n⟩ := found
    obtain ⟨-, -, -, hsome⟩ := h.find_ok hk
    rw [hn] at hsome
    cases hsome

/-- A directory with something in it is not removed. -/
theorem removeDir_full (hf : t.follow names = .ok names) (hn : t.node? names = some .directory)
    {name : String} (hchild : t.node? (names ++ [name]) ≠ none) :
    t.removeDir p = .error .notEmpty := by
  have hany := (any_isChild t names).mpr ⟨name, hchild⟩
  rw [removeDir, h.find_directory hf hn]
  simp only [bind, Except.bind, hany, Bool.true_or, if_true]

theorem removeDir_empty (hf : t.follow names = .ok names) (hn : t.node? names = some .directory)
    (hempty : ∀ name, t.node? (names ++ [name]) = none) (hne : names ≠ [])
    (hup : p.components.getLast? ≠ some .up) : t.removeDir p = .ok (t.erase names) := by
  have hchild : t.entries.any (isChild names) = false := by
    rw [Bool.eq_false_iff]
    intro hany
    obtain ⟨name, hname⟩ := (any_isChild t names).mp hany
    exact hname (hempty name)
  rw [removeDir, h.find_directory hf hn]
  simp only [bind, Except.bind, hchild, hup]
  simp [hne]

theorem removeDir_ok {u : FileTree} (hr : t.removeDir p = .ok u) :
    u = t.erase names ∧ names ≠ [] := by
  rw [removeDir] at hr
  cases hk : t.find p with
  | error e =>
    rw [hk] at hr
    cases hr
  | ok found =>
    obtain ⟨k, n⟩ := found
    obtain ⟨rfl, -⟩ := h.find_ok hk
    rw [hk] at hr
    cases n with
    | file content => cases hr
    | directory =>
      simp only [bind, Except.bind] at hr
      split at hr
      · cases hr
      · split at hr
        · cases hr
        · rename_i hne
          exact ⟨(Except.ok.inj hr).symm, by simpa using hne⟩

end Spells

end FileTree
end Testsmith
