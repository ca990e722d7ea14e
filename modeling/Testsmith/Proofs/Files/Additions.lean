/-
# Directories are only added

Placing a file adds directories where nothing was, and writes the file to the location that its path
leads to; nothing else changes (`Adds`, `place_ok`, `place_error`). A directory stays where it is,
so that a path goes on leading where it has led (`locate_of_keeps`). Paths may go upwards here.

Key definitions: `Adds`, `KeepsDirs`, `fileAt`.
Key theorems: `adds_makeDirs`, `place_ok`, `place_error`, `locate_of_keeps`.
-/
import Testsmith.Proofs.Files.Nodes

namespace Testsmith
namespace FileTree

/-- The content of the file at a location. -/
def fileAt (t : FileTree) (l : Location) : Option ByteArray :=
  match t.node? l with
  | some (.file content) => some content
  | _ => none

/-- At the location nothing has changed, or a directory is new. -/
def AddsAt (t u : FileTree) (l : Location) : Prop :=
  u.node? l = t.node? l ∨ (t.node? l = none ∧ u.node? l = some .directory)

/-- Nothing has changed but for new directories. -/
def Adds (t u : FileTree) : Prop := ∀ l, AddsAt t u l

/-- Every directory is still one. -/
def KeepsDirs (t u : FileTree) : Prop :=
  ∀ l, t.node? l = some .directory → u.node? l = some .directory

theorem Adds.refl (t : FileTree) : Adds t t := fun _ => Or.inl rfl

theorem Same.adds {t u : FileTree} (h : t.Same u) : Adds t u := fun l => Or.inl (h l).symm

theorem AddsAt.trans {t u v : FileTree} {l : Location} (h : AddsAt t u l) (h' : AddsAt u v l) :
    AddsAt t v l := by
  rcases h with h | ⟨hn, hd⟩
  · rcases h' with h' | ⟨hn', hd'⟩
    · exact Or.inl (h'.trans h)
    · exact Or.inr ⟨h ▸ hn', hd'⟩
  · rcases h' with h' | ⟨hn', -⟩
    · exact Or.inr ⟨hn, h'.trans hd⟩
    · rw [hd] at hn'
      cases hn'

theorem Adds.trans {t u v : FileTree} (h : Adds t u) (h' : Adds u v) : Adds t v :=
  fun l => (h l).trans (h' l)

theorem AddsAt.directory {t u : FileTree} {l : Location} (h : AddsAt t u l)
    (hd : t.node? l = some .directory) : u.node? l = some .directory := by
  rcases h with h | ⟨-, h⟩
  · rw [h, hd]
  · exact h

theorem AddsAt.fileAt {t u : FileTree} {l : Location} (h : AddsAt t u l) :
    u.fileAt l = t.fileAt l := by
  rcases h with h | ⟨hn, hd⟩
  · rw [FileTree.fileAt, h, FileTree.fileAt]
  · rw [FileTree.fileAt, hd, FileTree.fileAt, hn]

/-- Where there was a file, adding directories changes nothing. -/
theorem AddsAt.of_file {t u : FileTree} {l : Location} {content : ByteArray} (h : AddsAt t u l)
    (hfile : t.node? l = some (.file content)) : u.node? l = t.node? l := by
  rcases h with h | ⟨hnone, -⟩
  · exact h
  · rw [hfile] at hnone
    cases hnone

theorem Adds.keepsDirs {t u : FileTree} (h : Adds t u) : KeepsDirs t u := fun l => (h l).directory

theorem KeepsDirs.trans {t u v : FileTree} (h : KeepsDirs t u) (h' : KeepsDirs u v) :
    KeepsDirs t v :=
  fun l hl => h' l (h l hl)

/-! ### Making directories -/

theorem adds_put_directory {t : FileTree} {l : Location} (hn : t.node? l = none) :
    Adds t (t.put l .directory) := by
  have hne : l ≠ [] := by
    rintro rfl
    rw [node?_nil] at hn
    cases hn
  intro m
  by_cases hml : m = l
  · rw [hml]
    exact Or.inr ⟨hn, node?_put_self t _ hne⟩
  · exact Or.inl (node?_put_of_ne t _ hml)

theorem ensureDir_adds {t u : FileTree} {p : Path} (h : t.ensureDir p = .ok u) : Adds t u := by
  rw [ensureDir] at h
  cases hm : t.makeDir p with
  | error e =>
    simp only [hm] at h
    split at h
    · rw [← Except.ok.inj h]
      exact .refl t
    · cases h
  | ok made =>
    simp only [hm, Except.ok.injEq] at h
    subst h
    rw [makeDir] at hm
    cases hl : t.locate p with
    | error e =>
      rw [hl] at hm
      cases hm
    | ok l =>
      rw [hl] at hm
      simp only [bind, Except.bind] at hm
      split at hm
      · cases hm
      · rename_i hn
        rw [← Except.ok.inj hm]
        exact adds_put_directory hn

theorem makeDirsWithin_adds : ∀ (bound : Nat) (t : FileTree) (p : Path),
    Adds t (t.makeDirsWithin bound p).2
  | 0, t, _ => .refl t
  | bound + 1, t, p => by
    rw [makeDirsWithin]
    split
    · exact .refl t
    · cases hd : t.ensureDir p with
      | ok u => exact ensureDir_adds hd
      | error e =>
        by_cases he : e = .notFound
        · subst he
          cases hp : p.parent? with
          | none => exact .refl t
          | some parent =>
            have ih := makeDirsWithin_adds bound t parent
            dsimp only
            generalize t.makeDirsWithin bound parent = made at ih ⊢
            obtain ⟨result, u⟩ := made
            cases result with
            | error e => exact ih
            | ok _ =>
              dsimp only at ih ⊢
              cases hd' : u.ensureDir p with
              | ok w => exact ih.trans (ensureDir_adds hd')
              | error e => exact ih
        · cases e <;> first | exact absurd rfl he | exact .refl t

theorem adds_makeDirs (t : FileTree) (p : Path) : Adds t (t.makeDirs p).2 :=
  makeDirsWithin_adds _ t p

/-! ### Where paths lead -/

theorem foldlM_step_of_keeps {t u : FileTree} (h : KeepsDirs t u) : ∀ (names : List String)
    (l k : Location), names.foldlM t.step l = .ok k → names.foldlM u.step l = .ok k
  | [], _, _, hk => hk
  | name :: names, l, k, hk => by
    rw [List.foldlM_cons] at hk ⊢
    have hstep : ∀ m, t.step l name = .ok m → u.step l name = .ok m := by
      intro m hm
      rw [step] at hm ⊢
      cases hl : t.node? l with
      | none =>
        rw [hl] at hm
        cases hm
      | some n =>
        cases n with
        | file content =>
          rw [hl] at hm
          cases hm
        | directory =>
          rw [hl] at hm
          rw [h l hl]
          exact hm
    cases hs : t.step l name with
    | error e =>
      rw [hs] at hk
      cases hk
    | ok m =>
      rw [hs] at hk
      rw [hstep m hs]
      exact foldlM_step_of_keeps h names m k hk

/-- What a path that leads somewhere comes down to. -/
theorem locate_ok {t : FileTree} {p : Path} {l : Location} (h : t.locate p = .ok l) :
    (pathParts p).foldlM t.step [] = .ok l ∧
      ∀ content, t.node? l = some (.file content) → endsAsDirectory p = false := by
  rw [locate] at h
  repeat
    split at h
    · cases h
  cases hf : (pathParts p).foldlM t.step [] with
  | error e =>
    rw [hf] at h
    cases h
  | ok k =>
    rw [hf] at h
    simp only [bind, Except.bind] at h
    split at h
    · cases h
    · rename_i hnot
      cases h
      refine ⟨rfl, fun content hc => ?_⟩
      cases hd : endsAsDirectory p with
      | false => rfl
      | true => exact absurd hc (hnot content hd)

/-- A path leads where it has led, as long as directories stay and it does not end as one. -/
theorem locate_of_keeps {t u : FileTree} {p : Path} {l : Location} (h : t.locate p = .ok l)
    (hk : KeepsDirs t u) (hd : endsAsDirectory p = false) : u.locate p = .ok l := by
  have hf := foldlM_step_of_keeps hk _ _ _ (locate_ok h).1
  rw [locate] at h ⊢
  split at h
  · cases h
  split at h
  · cases h
  split at h
  · cases h
  rw [if_neg ‹_›, if_neg ‹_›, if_neg ‹_›, hf, hd]
  rfl

/-! ### Placing a file -/

theorem write_ok {t u : FileTree} {p : Path} {content : ByteArray} (h : t.write p content = .ok u) :
    ∃ l, t.locate p = .ok l ∧ endsAsDirectory p = false ∧ t.node? l ≠ some .directory ∧
      u = t.put l (.file content) := by
  rw [write] at h
  cases hl : t.locate p with
  | error e =>
    rw [hl] at h
    cases h
  | ok l =>
    rw [hl] at h
    simp only [bind, Except.bind] at h
    split at h
    · cases h
    · rename_i old hn
      exact ⟨l, rfl, (locate_ok hl).2 old hn, by simp [hn], (Except.ok.inj h).symm⟩
    · rename_i hn
      split at h
      · cases h
      · rename_i hd
        exact ⟨l, rfl, by simpa using hd, by simp [hn], (Except.ok.inj h).symm⟩

/-- Placing a file makes directories, and then writes it or fails. -/
theorem place_cases (t : FileTree) (p : Path) (content : ByteArray) :
    ∃ made, Adds t made ∧ ((∃ e, t.place p content = (.error e, made)) ∨
      ∃ u, made.write p content = .ok u ∧ t.place p content = (.ok (), u)) := by
  suffices hwrite : ∀ made, (∀ u, made.write p content = .ok u → t.place p content = (.ok (), u)) →
      (∀ e, made.write p content = .error e → t.place p content = (.error e, made)) →
      (∃ e, t.place p content = (.error e, made)) ∨
        ∃ u, made.write p content = .ok u ∧ t.place p content = (.ok (), u) by
    cases hp : p.parent? with
    | none =>
      refine ⟨t, .refl t, hwrite t (fun u hu => ?_) (fun e he => ?_)⟩
      · simp only [place, hp, hu]
      · simp only [place, hp, he]
    | some parent =>
      refine ⟨(t.makeDirs parent).2, adds_makeDirs t parent, ?_⟩
      cases hmade : t.makeDirs parent with
      | mk result made =>
        cases result with
        | error e => exact Or.inl ⟨e, by simp only [place, hp, hmade]⟩
        | ok _ =>
          refine hwrite made (fun u hu => ?_) (fun e he => ?_)
          · simp only [place, hp, hmade, hu]
          · simp only [place, hp, hmade, he]
  intro made hok herror
  cases hw : made.write p content with
  | error e => exact Or.inl ⟨e, herror e hw⟩
  | ok u => exact Or.inr ⟨u, rfl, hok u hw⟩

/-- **A file that is placed is at the location its path leads to.** Everything else is as it was,
but for new directories. -/
theorem place_ok {t u : FileTree} {p : Path} {content : ByteArray}
    (h : t.place p content = (.ok (), u)) :
    ∃ l, u.locate p = .ok l ∧ endsAsDirectory p = false ∧ u.node? l = some (.file content) ∧
      KeepsDirs t u ∧ ∀ m, m ≠ l → AddsAt t u m := by
  obtain ⟨made, hadds, ⟨e, he⟩ | ⟨w, hwrite, hw⟩⟩ := place_cases t p content
  · rw [h] at he
    cases he
  · rw [h, Prod.mk.injEq] at hw
    rw [hw.2]
    obtain ⟨l, hl, hd, hn, rfl⟩ := write_ok hwrite
    have hne : l ≠ [] := by
      rintro rfl
      exact hn rfl
    have hkeep : KeepsDirs made (made.put l (.file content)) := by
      intro m hm
      have hml : m ≠ l := by
        rintro rfl
        exact hn hm
      rw [node?_put_of_ne made _ hml, hm]
    refine ⟨l, locate_of_keeps hl hkeep hd, hd, node?_put_self made _ hne,
      hadds.keepsDirs.trans hkeep, fun m hm => ?_⟩
    exact (hadds m).trans (Or.inl (node?_put_of_ne made _ hm))

theorem place_error {t u : FileTree} {p : Path} {content : ByteArray} {e : IoError}
    (h : t.place p content = (.error e, u)) : Adds t u := by
  obtain ⟨made, hadds, ⟨e', he⟩ | ⟨w, -, hw⟩⟩ := place_cases t p content
  · rw [h, Prod.mk.injEq] at he
    rw [he.2]
    exact hadds
  · rw [h] at hw
    cases hw

end FileTree
end Testsmith
