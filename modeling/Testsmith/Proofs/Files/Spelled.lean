/-
# The location that a path spells

Along a path `..` takes back the last name, and every other part adds one. What comes out is the
location that the path spells (`spelled`): where the path leads in every tree that has the
directories on its way (`locate_spelled`). A file is read as before as long as directories stay and
the file at the location is the same (`readText_of_keeps`).

Key definitions: `turn`, `spell`, `spelled`.
Key theorems: `locate_spelled`, `hasFile_iff`, `readText_of_keeps`.
-/
import Testsmith.Proofs.Files.Additions

namespace Testsmith
namespace FileTree

/-- The location that a part of a path leads to from another one. -/
def turn (l : Location) (part : String) : Location :=
  if part = ".." then l.dropLast else l ++ [part]

/-- The location that parts lead to from the top. -/
def spell (parts : List String) : Location := parts.foldl turn []

/-- The location that a path leads to if all on its way is there. -/
def spelled (p : Path) : Location := spell (pathParts p)

@[simp] theorem spell_nil : spell [] = [] := rfl

theorem spell_append (ms ns : List String) : spell (ms ++ ns) = ns.foldl turn (spell ms) :=
  List.foldl_append

theorem spell_concat (ms : List String) (part : String) :
    spell (ms ++ [part]) = turn (spell ms) part := spell_append ms [part]

theorem turn_up (l : Location) : turn l ".." = l.dropLast := if_pos rfl

theorem turn_name (l : Location) {part : String} (h : part ≠ "..") : turn l part = l ++ [part] :=
  if_neg h

theorem step_ok {t : FileTree} {l m : Location} {part : String} (h : t.step l part = .ok m) :
    t.node? l = some .directory ∧ m = turn l part := by
  rw [step] at h
  cases hl : t.node? l with
  | none => rw [hl] at h; cases h
  | some n =>
    cases n with
    | file content => rw [hl] at h; cases h
    | directory =>
      rw [hl] at h
      refine ⟨rfl, ?_⟩
      rw [turn]
      by_cases hup : part = ".."
      · simp only [if_pos hup] at h ⊢
        exact (Except.ok.inj h).symm
      · simp only [if_neg hup] at h ⊢
        split at h
        · cases h
        · exact (Except.ok.inj h).symm

theorem foldlM_step_ok {t : FileTree} : ∀ {parts : List String} {l m : Location},
    parts.foldlM t.step l = .ok m → m = parts.foldl turn l
  | [], _, _, h => (Except.ok.inj h).symm
  | part :: parts, l, m, h => by
    rw [List.foldlM_cons] at h
    cases hs : t.step l part with
    | error e =>
      rw [hs] at h
      cases h
    | ok k =>
      rw [hs] at h
      rw [foldlM_step_ok h, (step_ok hs).2, List.foldl_cons]

/-- **A path that leads somewhere leads where it spells.** -/
theorem locate_spelled {t : FileTree} {p : Path} {l : Location} (h : t.locate p = .ok l) :
    l = spelled p :=
  foldlM_step_ok (locate_ok h).1

/-! ### Reading -/

theorem hasFile_iff {t : FileTree} {p : Path} : t.hasFile p = true ↔
    ∃ content, t.locate p = .ok (spelled p) ∧ t.node? (spelled p) = some (.file content) := by
  rw [hasFile, find]
  cases hl : t.locate p with
  | error e => simp [bind, Except.bind]
  | ok l =>
    obtain rfl := locate_spelled hl
    simp only [bind, Except.bind]
    rcases t.node? (spelled p) with _ | _ | content <;> simp

theorem read_of_locate {t : FileTree} {p : Path} {l : Location} {content : ByteArray}
    (hl : t.locate p = .ok l) (hn : t.node? l = some (.file content)) :
    t.read p = .ok content := by
  rw [FileTree.read, find, hl]
  simp only [bind, Except.bind, hn]

/-- A file that has not changed is read as before. -/
theorem readText_of_keeps {t u : FileTree} {p : Path} (hp : t.hasFile p = true)
    (hk : KeepsDirs t u) (hu : u.node? (spelled p) = t.node? (spelled p)) :
    u.readText p = t.readText p := by
  obtain ⟨content, hl, hn⟩ := hasFile_iff.mp hp
  have hplain : endsAsDirectory p = false := (locate_ok hl).2 content hn
  have hl' : u.locate p = .ok (spelled p) := locate_of_keeps hl hk hplain
  rw [readText, readText, read_of_locate hl hn, read_of_locate hl' (hu.trans hn)]

end FileTree
end Testsmith
