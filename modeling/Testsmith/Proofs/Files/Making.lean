/-
# What comes of making directories

Directories are made by trying the deepest first and going up until one is there. What comes of it
can be told by following the path from the top, as if every directory that is missing were there
(`reach`): the first file on the way or the first name that is too long is the error
(`makeDirsWithin_built`). This holds as long as no `..` leads back from where nothing is
(`NoWayBack`); where one does, a directory is made before it is known what comes after it.

As a file is placed in the same way, what comes of it depends on no more of the tree than where files
are on the way, and whether a directory is in the place of the file (`place_congr`).

Key definitions: `reach`, `NoWayBack`, `made`, `Built`.
Key theorems: `spell_of_missing`, `makeDirsWithin_built`, `place_congr`, `place_changes`.
-/
import Testsmith.Proofs.Files.Changes
import Testsmith.Proofs.Files.Parts
import Testsmith.Proofs.Files.Spelled

namespace Testsmith
namespace FileTree

/-- Where a part of a path leads when a directory is made of what is not there. -/
def stepOver (t : FileTree) (l : Location) (part : String) : Except IoError Location :=
  if (t.fileAt l).isSome then .error .notDirectory
  else if part ≠ ".." ∧ nameLimit < part.utf8ByteSize then .error .nameTooLong
  else .ok (turn l part)

/-- Where parts lead from the top when the directories on the way are made. -/
def reach (t : FileTree) (parts : List String) : Except IoError Location :=
  parts.foldlM t.stepOver []

/-- No `..` leads back from where nothing is. -/
def NoWayBack (t : FileTree) (parts : List String) : Prop :=
  ∀ ms, ms ++ [".."] <+: parts → t.node? (spell ms) ≠ none

/-! ### Following and making -/

theorem fileAt_of_file {t : FileTree} {l : Location} {content : ByteArray}
    (h : t.node? l = some (.file content)) : t.fileAt l = some content := by
  rw [FileTree.fileAt, h]

theorem fileAt_of_not_file {t : FileTree} {l : Location}
    (h : ∀ content, t.node? l ≠ some (.file content)) : t.fileAt l = none := by
  rw [FileTree.fileAt]
  split
  · rename_i content hn
    exact absurd hn (h content)
  · rfl

theorem reach_concat (t : FileTree) (ms : List String) (part : String) :
    t.reach (ms ++ [part]) = (t.reach ms).bind fun l => t.stepOver l part := by
  rw [reach, List.foldlM_append]
  change ((t.reach ms).bind fun l => (t.stepOver l part).bind fun m => .ok m) = _
  cases t.reach ms with
  | error e => rfl
  | ok l =>
    simp only [Except.bind]
    cases t.stepOver l part <;> rfl

theorem stepOver_ok {t : FileTree} {l m : Location} {part : String}
    (h : t.stepOver l part = .ok m) : m = turn l part := by
  rw [stepOver] at h
  split at h
  · cases h
  · split at h
    · cases h
    · exact (Except.ok.inj h).symm

theorem reach_ok {t : FileTree} {parts : List String} {l : Location} (h : t.reach parts = .ok l) :
    l = spell parts := by
  induction parts using List.reverseRecOn generalizing l with
  | nil => exact (Except.ok.inj h).symm
  | append_singleton ms part ih =>
    rw [reach_concat] at h
    cases hms : t.reach ms with
    | error e =>
      rw [hms] at h
      cases h
    | ok k =>
      rw [hms] at h
      rw [stepOver_ok h, ih hms, spell_concat]

theorem follow_spell {t : FileTree} {parts : List String} {l : Location}
    (h : t.follow parts = .ok l) : l = spell parts :=
  foldlM_step_ok h

/-- Where something is, making directories makes no difference. -/
theorem stepOver_eq_step {t : FileTree} {l : Location} {part : String} (h : t.node? l ≠ none) :
    t.stepOver l part = t.step l part := by
  rw [stepOver, step]
  rcases hl : t.node? l with _ | _ | content
  · exact absurd hl h
  · rw [fileAt_of_not_file (by simp [hl])]
    by_cases hup : part = ".."
    · simp [hup, turn_up]
    · simp [hup, turn_name]
  · rw [fileAt_of_file hl]
    rfl

/-- Where parts lead somewhere, or fail not just because something is missing, making directories
makes no difference. -/
theorem reach_eq_follow {t : FileTree} {parts : List String}
    (h : t.follow parts ≠ .error .notFound) : t.reach parts = t.follow parts := by
  induction parts using List.reverseRecOn with
  | nil => rfl
  | append_singleton ms part ih =>
    rw [follow_concat] at h
    have hms : t.follow ms ≠ .error .notFound := by
      intro hms
      rw [hms] at h
      exact h rfl
    rw [reach_concat, follow_concat, ih hms]
    cases hl : t.follow ms with
    | error e => rfl
    | ok l =>
      rw [hl] at h
      refine stepOver_eq_step fun hnone => h ?_
      simp only [Except.bind, step, hnone]

theorem reach_of_follow_ok {t : FileTree} {parts : List String} {l : Location}
    (h : t.follow parts = .ok l) : t.reach parts = .ok l :=
  (reach_eq_follow (by rw [h]; simp)).trans h

/-! ### Where something is missing -/

theorem NoWayBack.left {t : FileTree} {ms ns : List String} (h : NoWayBack t (ms ++ ns)) :
    NoWayBack t ms :=
  fun ks hks => h ks (hks.trans (List.prefix_append _ _))

theorem NoWayBack.ne_up {t : FileTree} {ms : List String} {part : String}
    (h : NoWayBack t (ms ++ [part])) (hnone : t.node? (spell ms) = none) : part ≠ ".." := by
  rintro rfl
  exact h ms (List.prefix_refl _) hnone

theorem WellFormed.node?_append {t : FileTree} (ht : t.WellFormed) {l : Location}
    (h : t.node? l = none) (ms : Location) : t.node? (l ++ ms) = none := by
  by_cases hms : ms = []
  · rwa [hms, List.append_nil]
  · by_contra hsome
    rw [ht.directory_above l ms hms hsome] at h
    cases h

/-- From where nothing is, every part leads further down. -/
theorem spell_of_missing {t : FileTree} (ht : t.WellFormed) {ms : List String}
    (hnone : t.node? (spell ms) = none) (ns : List String) (h : NoWayBack t (ms ++ ns)) :
    spell (ms ++ ns) = spell ms ++ ns := by
  induction ns using List.reverseRecOn with
  | nil => rw [List.append_nil, List.append_nil]
  | append_singleton ks part ih =>
    rw [← List.append_assoc] at h ⊢
    have hks := ih h.left
    have hmissing : t.node? (spell (ms ++ ks)) = none := by
      rw [hks]
      exact ht.node?_append hnone ks
    rw [spell_concat, turn_name _ (h.ne_up hmissing), hks, List.append_assoc]

theorem notFound_concat {t : FileTree} {ms : List String} {part : String}
    (h : t.follow (ms ++ [part]) = .error .notFound) :
    t.follow ms = .error .notFound ∨ t.node? (spell ms) = none := by
  rw [follow_concat] at h
  cases hl : t.follow ms with
  | error e =>
    rw [hl] at h
    exact Or.inl h
  | ok l =>
    right
    rw [hl, Except.bind, step] at h
    rw [← follow_spell hl]
    rcases hn : t.node? l with _ | _ | content
    · rfl
    · rw [hn] at h
      dsimp only at h
      split at h
      · cases h
      · split at h <;> cases h
    · rw [hn] at h
      cases h

/-- Where parts lead to nothing, nothing is. -/
theorem node?_of_notFound {t : FileTree} (ht : t.WellFormed) {parts : List String}
    (h : NoWayBack t parts) (hf : t.follow parts = .error .notFound) :
    t.node? (spell parts) = none := by
  induction parts using List.reverseRecOn with
  | nil => cases hf
  | append_singleton ms part ih =>
    have hms : t.node? (spell ms) = none := by
      rcases notFound_concat hf with hf | hnone
      · exact ih h.left hf
      · exact hnone
    rw [spell_concat, turn_name _ (h.ne_up hms)]
    exact ht.node?_append hms [part]

/-- What parts lead to is in a directory, if it is there. -/
theorem directory_of_follow_ok {t : FileTree} (ht : t.WellFormed) {parts : List String}
    {l : Location} (h : t.follow parts = .ok l) : t.node? l.dropLast = some .directory := by
  rcases List.eq_nil_or_concat parts with rfl | ⟨ms, part, rfl⟩
  · obtain rfl := Except.ok.inj h
    rfl
  rw [List.concat_eq_append, follow_concat] at h
  cases hk : t.follow ms with
  | error e =>
    rw [hk] at h
    cases h
  | ok k =>
    rw [hk] at h
    obtain ⟨hdir, rfl⟩ := step_ok h
    by_cases hup : part = ".."
    · rw [hup, turn_up]
      exact ht _ _ (ht k _ hdir)
    · rw [turn_name _ hup, List.dropLast_concat]
      exact hdir

/-! ### Directories all the way -/

/-- What comes of making a directory and those on its way. -/
def made (t : FileTree) (p : Path) : Except IoError Unit :=
  match t.reach (pathParts p) with
  | .error e => .error e
  | .ok l =>
    if (t.fileAt l).isSome then
      .error (if endsAsDirectory p then .notDirectory else .alreadyThere)
    else .ok ()

/-- A directory was made with those on its way, as far as it came. -/
structure Built (t : FileTree) (p : Path) (r : Except IoError Unit × FileTree) : Prop where
  result : r.1 = t.made p
  there : r.1 = .ok () →
    r.2.follow (pathParts p) = .ok (spelled p) ∧ r.2.node? (spelled p) = some .directory
  adds : Adds t r.2
  /-- Only on the way something has changed. -/
  way : ∀ l, r.2.node? l ≠ t.node? l → ∃ ms, ms <+: pathParts p ∧ spell ms = l
  wellFormed : r.2.WellFormed

variable {t : FileTree} {p q : Path} {l : Location} {part : String}

theorem made_of_not_file (hf : t.reach (pathParts p) = .ok l)
    (hn : ∀ content, t.node? l ≠ some (.file content)) : t.made p = .ok () := by
  rw [made, hf]
  dsimp only
  rw [fileAt_of_not_file hn]
  rfl

theorem made_of_error {e : IoError} (hf : t.reach (pathParts p) = .error e) :
    t.made p = .error e := by
  rw [made, hf]

theorem made_of_file {content : ByteArray} (hf : t.follow (pathParts p) = .ok l)
    (hn : t.node? l = some (.file content)) :
    t.made p = .error (if endsAsDirectory p then .notDirectory else .alreadyThere) := by
  rw [made, reach_of_follow_ok hf]
  dsimp only
  rw [fileAt_of_file hn]
  rfl

/-- The directory is there already. -/
theorem Built.there_already (ht : t.WellFormed) (hf : t.follow (pathParts p) = .ok l)
    (hn : t.node? l = some .directory) : Built t p (.ok (), t) where
  result := (made_of_not_file (reach_of_follow_ok hf) (by simp [hn])).symm
  there := fun _ => by
    obtain rfl : l = spelled p := follow_spell hf
    exact ⟨hf, hn⟩
  adds := .refl t
  way := fun _ h => absurd rfl h
  wellFormed := ht

theorem Built.failed (ht : t.WellFormed) {e : IoError} (h : t.made p = .error e) :
    Built t p (.error e, t) where
  result := h.symm
  there := fun h => by cases h
  adds := .refl t
  way := fun _ h => absurd rfl h
  wellFormed := ht

/-- A directory that is made below another one. -/
theorem wellFormed_put_directory (ht : t.WellFormed) (hf : t.follow (pathParts p) = .ok l)
    (hn : t.node? l = none) : (t.put l .directory).WellFormed :=
  ht.put _ (directory_of_follow_ok ht hf) (by simp [hn])

/-- Only the last directory was missing. -/
theorem Built.new (ht : t.WellFormed) (hf : t.follow (pathParts p) = .ok l)
    (hn : t.node? l = none) : Built t p (.ok (), t.put l .directory) where
  result := (made_of_not_file (reach_of_follow_ok hf) (by simp [hn])).symm
  there := fun _ => by
    obtain rfl : l = spelled p := follow_spell hf
    refine ⟨foldlM_step_of_keeps (adds_put_directory hn).keepsDirs _ _ _ hf, ?_⟩
    refine node?_put_self t _ fun hnil => ?_
    rw [hnil] at hn
    cases hn
  adds := adds_put_directory hn
  way := fun m hm => by
    obtain rfl : l = spelled p := follow_spell hf
    by_cases hml : m = spelled p
    · exact ⟨_, List.prefix_refl _, hml.symm⟩
    · exact absurd (node?_put_of_ne t _ hml) hm
  wellFormed := wellFormed_put_directory ht hf hn

/-- The directory above could not be made. -/
theorem Built.failed_above (hq : Path.IsParent q p part) (hnone : t.node? (spelled q) = none)
    {e : IoError} {u : FileTree} (h : Built t q (.error e, u)) : Built t p (.error e, u) where
  result := by
    have hmade : t.made q = .error e := h.result.symm
    cases hreach : t.reach (pathParts q) with
    | error e' =>
      rw [made_of_error hreach] at hmade
      obtain rfl := Except.error.inj hmade
      refine (made_of_error ?_).symm
      rw [hq.parts, reach_concat, hreach]
      rfl
    | ok k =>
      obtain rfl : k = spelled q := reach_ok hreach
      rw [made_of_not_file hreach (by simp [hnone])] at hmade
      cases hmade
  there := fun h => by cases h
  adds := h.adds
  way := fun m hm => by
    obtain ⟨ms, hms, rfl⟩ := h.way m hm
    rw [hq.parts]
    exact ⟨ms, hms.trans (List.prefix_append _ _), rfl⟩
  wellFormed := h.wellFormed

/-- A directory that could be made can be reached. -/
theorem Built.reach {u : FileTree} (h : Built t q (.ok (), u)) :
    t.reach (pathParts q) = .ok (spelled q) := by
  cases hreach : t.reach (pathParts q) with
  | error e =>
    have hmade : .ok () = t.made q := h.result
    rw [made_of_error hreach] at hmade
    cases hmade
  | ok k =>
    rw [reach_ok hreach]
    rfl

theorem spelled_below (hq : Path.IsParent q p part) (hup : part ≠ "..") :
    spelled p = spelled q ++ [part] := by
  rw [spelled, hq.parts, spell_concat, turn_name _ hup]
  rfl

/-- Below a directory that has to be made first, only a name that is too long is in the way. -/
theorem made_below (ht : t.WellFormed) (hq : Path.IsParent q p part) (hup : part ≠ "..")
    (hreach : t.reach (pathParts q) = .ok (spelled q)) (hnone : t.node? (spelled q) = none) :
    t.made p = if nameLimit < part.utf8ByteSize then .error .nameTooLong else .ok () := by
  have hnofile : t.fileAt (spelled q) = none := fileAt_of_not_file (by simp [hnone])
  have hspelled := spelled_below hq hup
  have hmissing : t.node? (spelled p) = none := by
    rw [hspelled]
    exact ht.node?_append hnone [part]
  split
  · rename_i hlong
    refine made_of_error ?_
    rw [hq.parts, reach_concat, hreach, Except.bind, stepOver, hnofile, if_neg (by simp)]
    exact if_pos ⟨hup, hlong⟩
  · rename_i hshort
    refine made_of_not_file (l := spelled p) ?_ (by simp [hmissing])
    rw [hq.parts, reach_concat, hreach, Except.bind, stepOver, hnofile, hspelled,
      ← turn_name _ hup, if_neg (by simp)]
    exact if_neg fun h => hshort h.2

/-- The directory above was missing and is made, and then the directory itself. -/
theorem Built.below (ht : t.WellFormed) (hp : Usable p) (hq : Path.IsParent q p part)
    (hback : NoWayBack t (pathParts p)) (hnone : t.node? (spelled q) = none) {u : FileTree}
    (h : Built t q (.ok (), u)) :
    Built t p (match u.ensureDir p with
      | .ok w => (.ok (), w)
      | .error e => (.error e, u)) := by
  rw [hq.parts] at hback
  have hup : part ≠ ".." := hback.ne_up hnone
  have hspelled := spelled_below hq hup
  have hresult := made_below ht hq hup h.reach hnone
  obtain ⟨hfu, hdir⟩ := h.there rfl
  have hway (m : Location) (hm : u.node? m ≠ t.node? m) :
      ∃ ms, ms <+: pathParts p ∧ spell ms = m := by
    obtain ⟨ms, hms, rfl⟩ := h.way m hm
    rw [hq.parts]
    exact ⟨ms, hms.trans (List.prefix_append _ _), rfl⟩
  by_cases hlong : nameLimit < part.utf8ByteSize
  · rw [if_pos hlong] at hresult
    have hfp : u.follow (pathParts p) = .error .nameTooLong := by
      rw [hq.parts, follow_concat, hfu, Except.bind, step_directory hdir hup, if_pos hlong]
    rw [ensureDir_of_error hp hfp]
    exact ⟨hresult.symm, (fun h => by cases h), h.adds, hway, h.wellFormed⟩
  · rw [if_neg hlong] at hresult
    have hfp : u.follow (pathParts p) = .ok (spelled p) := by
      rw [hq.parts, follow_concat, hfu, Except.bind, step_directory hdir hup, if_neg hlong,
        hspelled]
    -- on the way to the directory above this one may have been made as well
    rcases h.adds (spelled p) with hsame | ⟨-, hthere⟩
    · have hmissing : t.node? (spelled p) = none := by
        rw [hspelled]
        exact ht.node?_append hnone [part]
      rw [hmissing] at hsame
      have hnew := Built.new h.wellFormed hfp hsame
      rw [ensureDir_of_none hp hfp hsame]
      refine ⟨hresult.symm, hnew.there, h.adds.trans hnew.adds, fun m hm => ?_, hnew.wellFormed⟩
      by_cases hmu : u.node? m = t.node? m
      · exact hnew.way m (by rwa [hmu])
      · exact hway m hmu
    · rw [ensureDir_of_directory hp hfp hthere]
      exact ⟨hresult.symm, fun _ => ⟨hfp, hthere⟩, h.adds, hway, h.wellFormed⟩

theorem pathParts_of_empty {p : Path} (h : p.text = "") : pathParts p = [] := by
  rw [Path.pathParts_eq, h]
  rfl

/-- **Directories are made all the way.** The induction is on the components: where the path leads to
nothing, the one above it is made first. -/
theorem makeDirsWithin_built (ht : t.WellFormed) : ∀ (bound : Nat) (p : Path),
    Path.ofComponents p.components = p → (p.text ≠ "" → Usable p) → NoWayBack t (pathParts p) →
      p.components.length < bound → Built t p (t.makeDirsWithin bound p)
  | 0, p, _, _, _, hb => absurd hb (Nat.not_lt_zero _)
  | bound + 1, p, hplain, husable, hback, hb => by
    rw [makeDirsWithin]
    by_cases hempty : p.text = ""
    · rw [if_pos (by simpa using hempty)]
      have hparts : pathParts p = [] := pathParts_of_empty hempty
      exact .there_already ht (l := []) (by rw [hparts]; rfl) rfl
    rw [if_neg (by simpa using hempty)]
    have hp := husable hempty
    cases hf : t.follow (pathParts p) with
    | ok l =>
      rcases hn : t.node? l with _ | _ | content
      · rw [ensureDir_of_none hp hf hn]
        exact .new ht hf hn
      · rw [ensureDir_of_directory hp hf hn]
        exact .there_already ht hf hn
      · rw [ensureDir_of_file hp hf hn]
        have hmade := made_of_file hf hn
        cases hd : endsAsDirectory p with
        | true =>
          rw [hd] at hmade
          exact .failed ht hmade
        | false =>
          rw [hd] at hmade
          exact .failed ht hmade
    | error e =>
      rw [ensureDir_of_error hp hf]
      by_cases he : e = .notFound
      · subst he
        obtain ⟨q, part, hq⟩ := Path.exists_isParent (p := p) fun hnil => by
          rw [hnil] at hf
          cases hf
        have hbackq : NoWayBack t (pathParts q) := by
          rw [hq.parts] at hback
          exact hback.left
        have hnone : t.node? (spelled q) = none := by
          rw [hq.parts] at hf
          rcases notFound_concat hf with hf | hnone
          · exact node?_of_notFound ht hbackq hf
          · exact hnone
        have hquse (hne : q.text ≠ "") : Usable q := hp.of_sublist hne (hq.text hplain)
        have hbuilt := makeDirsWithin_built ht bound q hq.plain hquse hbackq
          (by have := hq.components; omega)
        rw [hq.parent]
        dsimp only
        generalize t.makeDirsWithin bound q = r at hbuilt ⊢
        obtain ⟨result | _, u⟩ := r
        · exact .failed_above hq hnone hbuilt
        · exact .below ht hp hq hback hnone hbuilt
      · have hmade : t.made p = .error e := by
          refine made_of_error ((reach_eq_follow ?_).trans hf)
          rw [hf]
          simpa using he
        cases e <;> first | exact absurd rfl he | exact .failed ht hmade

theorem makeDirs_built (ht : t.WellFormed) (hplain : Path.ofComponents q.components = q)
    (husable : q.text ≠ "" → Usable q) (hback : NoWayBack t (pathParts q)) :
    Built t q (t.makeDirs q) :=
  makeDirsWithin_built ht _ q hplain husable hback (Nat.lt_succ_self _)

/-- Nothing is made for a path that the system does not take. -/
theorem makeDirs_of_not_usable (hne : q.text ≠ "") (h : ¬Usable q) :
    ∃ e, ∀ t : FileTree, t.makeDirs q = (.error e, t) := by
  obtain ⟨e, he, hlocate⟩ := locate_of_not_usable h
  refine ⟨e, fun t => ?_⟩
  have hensure : t.ensureDir q = .error e := by
    have hno : t.hasDirectory q = false := by
      rw [hasDirectory, find, hlocate]
      rfl
    rw [ensureDir, makeDir, hlocate]
    simp only [bind, Except.bind, hno, Bool.false_eq_true, if_false]
  have hfound : e ≠ .notFound := fun h => hne (he h)
  rw [makeDirs, makeDirsWithin, if_neg (by simpa using hne), hensure]
  cases e <;> first | exact absurd rfl hfound | rfl

/-! ### What comes of it depends on files only -/

theorem reach_congr {u : FileTree} {parts : List String}
    (h : ∀ ms, ms <+: parts → (t.fileAt (spell ms)).isSome = (u.fileAt (spell ms)).isSome) :
    t.reach parts = u.reach parts := by
  induction parts using List.reverseRecOn with
  | nil => rfl
  | append_singleton ms part ih =>
    have hms := ih fun ks hks => h ks (hks.trans (List.prefix_append _ _))
    rw [reach_concat, reach_concat, ← hms]
    cases hl : t.reach ms with
    | error e => rfl
    | ok l =>
      obtain rfl := reach_ok hl
      rw [Except.bind, Except.bind, stepOver, stepOver, h ms (List.prefix_append _ _)]

theorem made_congr {u : FileTree} (h : ∀ ms, ms <+: pathParts p →
    (t.fileAt (spell ms)).isSome = (u.fileAt (spell ms)).isSome) : t.made p = u.made p := by
  rw [made, made, ← reach_congr h]
  cases hl : t.reach (pathParts p) with
  | error e => rfl
  | ok l =>
    obtain rfl := reach_ok hl
    dsimp only
    rw [h _ (List.prefix_refl _)]

/-! ### Placing a file -/

/-- A path that a file can be placed at: it ends in a name, and not as a directory. -/
structure FilePath (p q : Path) (name : String) : Prop where
  above : Path.IsParent q p name
  name : name ≠ ".."
  file : endsAsDirectory p = false

theorem FilePath.spelled_eq (h : FilePath p q part) : spelled p = spelled q ++ [part] := by
  rw [spelled, h.above.parts, spell_concat, turn_name _ h.name]
  rfl

theorem place_of_error (h : FilePath p q part) {e : IoError} {u : FileTree}
    (hm : t.makeDirs q = (.error e, u)) (content : ByteArray) :
    t.place p content = (.error e, u) := by
  simp only [place, h.above.parent, hm]

theorem place_of_ok (h : FilePath p q part) {u : FileTree} (hm : t.makeDirs q = (.ok (), u))
    (content : ByteArray) : t.place p content = match u.write p content with
      | .ok w => (.ok (), w)
      | .error e => (.error e, u) := by
  cases hw : u.write p content with
  | error e => simp only [place, h.above.parent, hm, hw]
  | ok w => simp only [place, h.above.parent, hm, hw]

/-- What comes of writing a file into a directory. -/
theorem write_below (h : FilePath p q part) (hp : Usable p)
    (hf : t.follow (pathParts q) = .ok (spelled q))
    (hdir : t.node? (spelled q) = some .directory) (content : ByteArray) :
    (t.write p content).map (fun _ => ()) =
      if nameLimit < part.utf8ByteSize then .error .nameTooLong
      else if t.node? (spelled p) = some .directory then .error .isDirectory
      else .ok () := by
  by_cases hlong : nameLimit < part.utf8ByteSize
  · have hfp : t.follow (pathParts p) = .error .nameTooLong := by
      rw [h.above.parts, follow_concat, hf, Except.bind, step_directory hdir h.name, if_pos hlong]
    rw [write, locate_of_error hp hfp, if_pos hlong]
    rfl
  · have hfp : t.follow (pathParts p) = .ok (spelled p) := by
      rw [h.above.parts, follow_concat, hf, Except.bind, step_directory hdir h.name,
        if_neg hlong, h.spelled_eq]
    have hl : t.locate p = .ok (spelled p) := by
      rw [locate_eq t hp, hfp, h.file]
      rfl
    rw [write, hl, if_neg hlong]
    simp only [bind, Except.bind, h.file]
    rcases t.node? (spelled p) with _ | _ | old <;> simp [Except.map]

/-- Making the directories on its way does not touch the place of a file. -/
theorem Built.node?_file (ht : t.WellFormed) (h : FilePath p q part)
    (hback : NoWayBack t (pathParts q)) {r : Except IoError Unit × FileTree} (hr : Built t q r) :
    r.2.node? (spelled p) = t.node? (spelled p) := by
  by_contra hchanged
  obtain ⟨ms, ⟨ns, hns⟩, hms⟩ := hr.way _ hchanged
  have hnone : t.node? (spell ms) = none := by
    rw [hms]
    rcases hr.adds (spelled p) with hsame | ⟨hnone, -⟩
    · exact absurd hsame hchanged
    · exact hnone
  rw [← hns] at hback
  have hdown : spelled q = spell ms ++ ns := by
    rw [spelled, ← hns, spell_of_missing ht hnone ns hback]
  have hlength := congrArg List.length hdown
  rw [hms, h.spelled_eq, List.length_append, List.length_append, List.length_singleton] at hlength
  omega

/-- **What comes of placing a file depends on where files are on the way, and on whether a directory
is in its place.** -/
theorem place_congr {u : FileTree} (ht : t.WellFormed) (hu : u.WellFormed) (h : FilePath p q part)
    (htback : NoWayBack t (pathParts q)) (huback : NoWayBack u (pathParts q))
    (hfiles : ∀ ms, ms <+: pathParts q →
      (t.fileAt (spell ms)).isSome = (u.fileAt (spell ms)).isSome)
    (hdir : t.node? (spelled p) = some .directory ↔
      u.node? (spelled p) = some .directory) (content content' : ByteArray) :
    (t.place p content).1 = (u.place p content').1 := by
  by_cases hq : q.text ≠ "" → Usable q
  · have htb := makeDirs_built ht h.above.plain hq htback
    have hub := makeDirs_built hu h.above.plain hq huback
    have hsame : (t.makeDirs q).1 = (u.makeDirs q).1 := by
      rw [htb.result, hub.result, made_congr hfiles]
    have htnode := htb.node?_file ht h htback
    have hunode := hub.node?_file hu h huback
    generalize hrt : t.makeDirs q = rt at htb hsame htnode
    generalize hru : u.makeDirs q = ru at hub hsame hunode
    obtain ⟨result, t'⟩ := rt
    obtain ⟨result', u'⟩ := ru
    obtain rfl : result = result' := hsame
    cases result with
    | error e => rw [place_of_error h hrt, place_of_error h hru]
    | ok _ =>
      have hwrite : (t'.write p content).map (fun _ => ()) =
          (u'.write p content').map (fun _ => ()) := by
        by_cases hp : Usable p
        · obtain ⟨hft, hdt⟩ := htb.there rfl
          obtain ⟨hfu, hdu⟩ := hub.there rfl
          dsimp only at htnode hunode
          rw [write_below h hp hft hdt, write_below h hp hfu hdu, htnode, hunode]
          simp only [hdir]
        · obtain ⟨e, -, hlocate⟩ := locate_of_not_usable hp
          rw [write, write, hlocate, hlocate]
          rfl
      rw [place_of_ok h hrt, place_of_ok h hru]
      cases hwt : t'.write p content <;> cases hwu : u'.write p content' <;>
        simp_all [Except.map]
  · rw [Classical.not_imp] at hq
    obtain ⟨e, he⟩ := makeDirs_of_not_usable hq.1 hq.2
    rw [place_of_error h (he t), place_of_error h (he u)]

/-- What placing a file changes. -/
structure PlaceChanges (t u : FileTree) (p q : Path) : Prop where
  wellFormed : u.WellFormed
  dirs : KeepsDirs t u
  changed : ∀ l, u.node? l ≠ t.node? l →
    (l = spelled p ∧ ∃ content, u.node? l = some (.file content)) ∨
      t.node? l = none ∧ u.node? l = some .directory ∧ ∃ ms, ms <+: pathParts q ∧ spell ms = l

theorem Built.placeChanges {r : Except IoError Unit × FileTree} (h : Built t q r) (p : Path) :
    PlaceChanges t r.2 p q where
  wellFormed := h.wellFormed
  dirs := h.adds.keepsDirs
  changed := fun l hl => by
    rcases h.adds l with hsame | ⟨hnone, hdir⟩
    · exact absurd hsame hl
    · exact Or.inr ⟨hnone, hdir, h.way l hl⟩

/-- **Placing a file changes its place, and makes directories on its way.** -/
theorem place_changes (ht : t.WellFormed) (h : FilePath p q part)
    (hback : NoWayBack t (pathParts q)) (content : ByteArray) :
    PlaceChanges t (t.place p content).2 p q := by
  by_cases hq : q.text ≠ "" → Usable q
  · have hbuilt := makeDirs_built ht h.above.plain hq hback
    generalize hm : t.makeDirs q = r at hbuilt
    obtain ⟨result, u⟩ := r
    have hdirs := hbuilt.placeChanges p
    cases result with
    | error e =>
      rw [place_of_error h hm]
      exact hdirs
    | ok _ =>
      rw [place_of_ok h hm]
      cases hw : u.write p content with
      | error e => exact hdirs
      | ok w =>
        obtain ⟨l, hl, -, hn, rfl⟩ := write_ok hw
        have hl' := locate_spelled hl
        subst hl'
        have hne : spelled p ≠ [] := fun hnil => hn (by rw [hnil]; rfl)
        have habove := directory_of_follow_ok hbuilt.wellFormed (locate_ok hl).1
        refine ⟨hbuilt.wellFormed.put _ habove hn, fun l hl => ?_, fun l hl => ?_⟩
        · have hlp : l ≠ spelled p := by
            rintro rfl
            exact hn (hdirs.dirs _ hl)
          rw [node?_put_of_ne u _ hlp]
          exact hdirs.dirs l hl
        · by_cases hlp : l = spelled p
          · subst hlp
            exact Or.inl ⟨rfl, content, node?_put_self u _ hne⟩
          · rw [node?_put_of_ne u _ hlp] at hl ⊢
            exact hdirs.changed l hl
  · rw [Classical.not_imp] at hq
    obtain ⟨e, he⟩ := makeDirs_of_not_usable hq.1 hq.2
    rw [place_of_error h (he t)]
    exact ⟨ht, fun _ hl => hl, fun _ hl => absurd rfl hl⟩

end FileTree
end Testsmith
