/-
# Following names

Names are followed from the top, and without double points they lead to the location that they
spell. They lead there when everything above is a directory and no name is too long; they lead to
nothing (`Missing`) when the first thing that is wrong on the way is that something is not there.

Key definitions: `follow`, `Short`, `Missing`, `Usable`, `Leads`.
Key theorems: `follow_eq_ok`, `Missing.node?`, `Missing.above`, `locate_eq`, `leads_of_plain`.
-/
import Testsmith.Proofs.Files.Nodes
import Testsmith.Proofs.Files.Paths

namespace Testsmith
namespace FileTree

/-- Where names lead from the top. -/
def follow (t : FileTree) (names : List String) : Except IoError Location :=
  names.foldlM t.step []

/-- No name is too long. -/
def Short (names : List String) : Prop := ∀ s ∈ names, s.utf8ByteSize ≤ nameLimit

/-- No name leads upwards. -/
def Downward (names : List String) : Prop := ∀ s ∈ names, s ≠ ".."

/-- The names lead to nothing. -/
def Missing (t : FileTree) (names : List String) : Prop :=
  t.follow names = .error .notFound ∨ (t.follow names = .ok names ∧ t.node? names = none)

theorem Short.mono {ms names : List String} (h : Short names) (hp : ms <+: names) : Short ms :=
  fun s hs => h s (hp.subset hs)

theorem Downward.mono {ms names : List String} (h : Downward names) (hp : ms <+: names) :
    Downward ms :=
  fun s hs => h s (hp.subset hs)

theorem Downward.left {ms ns : List String} (h : Downward (ms ++ ns)) : Downward ms :=
  h.mono (List.prefix_append _ _)

/-! ### Where names lead -/

theorem follow_append (t : FileTree) (ms ns : List String) :
    t.follow (ms ++ ns) = (t.follow ms).bind fun l => ns.foldlM t.step l := by
  rw [follow, List.foldlM_append]
  rfl

theorem follow_concat (t : FileTree) (ms : List String) (name : String) :
    t.follow (ms ++ [name]) = (t.follow ms).bind fun l => t.step l name := by
  rw [follow_append]
  cases t.follow ms with
  | error e => rfl
  | ok l =>
    simp only [Except.bind, List.foldlM_cons, List.foldlM_nil]
    cases t.step l name <;> rfl

theorem follow_append_error {t : FileTree} {ms : List String} {e : IoError}
    (h : t.follow ms = .error e) (ns : List String) : t.follow (ms ++ ns) = .error e := by
  rw [follow_append, h]
  rfl

/-- A step from a directory. -/
theorem step_directory {t : FileTree} {l : Location} {name : String}
    (h : t.node? l = some .directory) (hup : name ≠ "..") :
    t.step l name =
      if nameLimit < name.utf8ByteSize then .error .nameTooLong else .ok (l ++ [name]) := by
  rw [step, h]
  simp only [if_neg hup]

/-- Names that lead somewhere come from a directory and are short, and lead where they say. -/
theorem follow_concat_ok {t : FileTree} {ms : List String} {name : String} {l : Location}
    (hup : name ≠ "..") (h : t.follow (ms ++ [name]) = .ok l) :
    ∃ k, t.follow ms = .ok k ∧ t.node? k = some .directory ∧ name.utf8ByteSize ≤ nameLimit ∧
      l = k ++ [name] := by
  rw [follow_concat] at h
  cases hm : t.follow ms with
  | error e =>
    rw [hm] at h
    cases h
  | ok k =>
    rw [hm, Except.bind, step] at h
    cases hk : t.node? k with
    | none =>
      rw [hk] at h
      cases h
    | some n =>
      cases n with
      | file content =>
        rw [hk] at h
        cases h
      | directory =>
        rw [hk] at h
        simp only [if_neg hup] at h
        by_cases hlong : nameLimit < name.utf8ByteSize
        · rw [if_pos hlong] at h
          cases h
        · rw [if_neg hlong, Except.ok.injEq] at h
          exact ⟨k, rfl, hk, Nat.le_of_not_lt hlong, h.symm⟩

theorem follow_ok {t : FileTree} {names : List String} {l : Location} (hd : Downward names)
    (h : t.follow names = .ok l) : l = names := by
  induction names using List.reverseRecOn generalizing l with
  | nil =>
    rw [follow, List.foldlM_nil] at h
    exact (Except.ok.inj h).symm
  | append_singleton ms name ih =>
    obtain ⟨k, hk, -, -, rfl⟩ := follow_concat_ok (hd name (by simp)) h
    rw [ih hd.left hk]

/-- The names lead there when all above are directories and no name is too long. -/
theorem follow_eq_ok {t : FileTree} {names : List String} (hd : Downward names) (hs : Short names)
    (h : ∀ l, l <+: names → l ≠ names → t.node? l = some .directory) :
    t.follow names = .ok names := by
  induction names using List.reverseRecOn with
  | nil => rfl
  | append_singleton ms name ih =>
    have hms : t.follow ms = .ok ms := by
      refine ih hd.left (hs.mono (List.prefix_append _ _)) fun l hl hne => ?_
      refine h l (hl.trans (List.prefix_append _ _)) fun he => ?_
      have hlen := hl.length_le
      rw [he, List.length_append, List.length_singleton] at hlen
      omega
    have hdir := h ms (List.prefix_append _ _) (by simp)
    rw [follow_concat, hms, Except.bind, step_directory hdir (hd name (by simp)),
      if_neg (Nat.not_lt.mpr (hs name (by simp)))]

/-- Whatever stands on the way of names that lead somewhere is a directory. -/
theorem directory_of_follow {t : FileTree} {names : List String} (hd : Downward names)
    (h : t.follow names = .ok names) :
    Short names ∧ ∀ l, l <+: names → l ≠ names → t.node? l = some .directory := by
  induction names using List.reverseRecOn with
  | nil =>
    refine ⟨by simp [Short], fun l hl hne => ?_⟩
    exact absurd (List.prefix_nil.mp hl) hne
  | append_singleton ms name ih =>
    obtain ⟨k, hk, hdir, hshort, -⟩ := follow_concat_ok (hd name (by simp)) h
    have hkm := follow_ok hd.left hk
    rw [hkm] at hk hdir
    obtain ⟨hs, habove⟩ := ih hd.left hk
    refine ⟨fun s hm => ?_, fun l hl hne => ?_⟩
    · rcases List.mem_append.mp hm with hm | hm
      · exact hs s hm
      · rw [List.mem_singleton.mp hm]
        exact hshort
    · rcases List.prefix_concat_iff.mp hl with rfl | hl
      · exact absurd rfl hne
      · by_cases hlm : l = ms
        · rw [hlm]
          exact hdir
        · exact habove l hl hlm

/-- In a tree, short names lead to whatever is at the location they spell. -/
theorem WellFormed.follow {t : FileTree} (ht : t.WellFormed) {names : List String}
    (hd : Downward names) (hs : Short names) (h : t.node? names ≠ none) :
    t.follow names = .ok names := by
  refine follow_eq_ok hd hs fun l hl hne => ?_
  obtain ⟨ms, rfl⟩ := hl
  refine ht.directory_above l ms (fun hms => ?_) h
  rw [hms, List.append_nil] at hne
  exact hne rfl

/-! ### Names that lead to nothing -/

theorem missing_of_notFound {t : FileTree} {ms : List String} {name : String}
    (hd : Downward (ms ++ [name])) (h : t.follow (ms ++ [name]) = .error .notFound) :
    t.Missing ms := by
  rw [follow_concat] at h
  cases hm : t.follow ms with
  | error e =>
    rw [hm] at h
    exact Or.inl (hm.trans h)
  | ok k =>
    have hk := follow_ok hd.left hm
    subst hk
    refine Or.inr ⟨hm, ?_⟩
    rw [hm, Except.bind] at h
    cases hn : t.node? k with
    | none => rfl
    | some n =>
      cases n with
      | file content =>
        rw [step, hn] at h
        cases h
      | directory =>
        rw [step_directory hn (hd name (by simp))] at h
        split at h <;> cases h

/-- Where names lead to nothing, nothing is. -/
theorem Missing.node? {t : FileTree} (ht : t.WellFormed) {names : List String} (hd : Downward names)
    (h : t.Missing names) : t.node? names = none := by
  induction names using List.reverseRecOn with
  | nil => rcases h with h | h <;> simp [follow, pure, Except.pure] at h
  | append_singleton ms name ih =>
    rcases h with h | h
    · have hnone := ih hd.left (missing_of_notFound hd h)
      by_contra hsome
      rw [ht.directory_of_concat hsome] at hnone
      cases hnone
    · exact h.2

/-- Above names that lead to nothing, there are directories or nothing. -/
theorem Missing.above {t : FileTree} (ht : t.WellFormed) {names : List String} (hd : Downward names)
    (h : t.Missing names) : ∀ l, l <+: names → t.node? l = none ∨ t.node? l = some .directory := by
  induction names using List.reverseRecOn with
  | nil => rcases h with h | h <;> simp [follow, pure, Except.pure] at h
  | append_singleton ms name ih =>
    intro l hl
    have hnode := h.node? ht hd
    rcases h with h | ⟨h, hnone⟩
    · rcases List.prefix_concat_iff.mp hl with rfl | hl
      · exact Or.inl hnode
      · exact ih hd.left (missing_of_notFound hd h) l hl
    · rcases List.prefix_concat_iff.mp hl with rfl | habove
      · exact Or.inl hnone
      · refine Or.inr ((directory_of_follow hd h).2 l hl fun he => ?_)
        have hlen := habove.length_le
        rw [he, List.length_append, List.length_singleton] at hlen
        omega

/-! ### Paths that lead somewhere -/

/-- A path that the system takes. -/
def Usable (p : Path) : Prop :=
  p.text ≠ "" ∧ '\x00' ∉ p.text.toList ∧ p.text.utf8ByteSize < pathLimit

instance (p : Path) : Decidable (Usable p) := inferInstanceAs (Decidable (_ ∧ _ ∧ _))

instance (names : List String) : Decidable (Short names) :=
  inferInstanceAs (Decidable (∀ s ∈ names, s.utf8ByteSize ≤ nameLimit))

theorem locate_eq (t : FileTree) {p : Path} (h : Usable p) :
    t.locate p = (t.follow (pathParts p)).bind fun l =>
      match endsAsDirectory p, t.node? l with
      | true, some (.file _) => .error .notDirectory
      | _, _ => .ok l := by
  have hempty : p.text.isEmpty = false := by simpa using h.1
  have hnul : p.text.toList.contains '\x00' = false := by simpa using h.2.1
  rw [locate, hempty, hnul, if_neg (by simp), if_neg (by simp), if_neg (Nat.not_le.mpr h.2.2)]
  rfl

theorem locate_of_error {t : FileTree} {p : Path} (h : Usable p) {e : IoError}
    (hf : t.follow (pathParts p) = .error e) : t.locate p = .error e := by
  rw [locate_eq t h, hf]
  rfl

theorem locate_of_ok {t : FileTree} {p : Path} (h : Usable p) {l : Location}
    (hf : t.follow (pathParts p) = .ok l) (hn : ∀ content, t.node? l ≠ some (.file content)) :
    t.locate p = .ok l := by
  rw [locate_eq t h, hf, Except.bind]
  rcases hl : t.node? l with _ | _ | content
  · cases endsAsDirectory p <;> rfl
  · cases endsAsDirectory p <;> rfl
  · exact absurd hl (hn content)

/-- A path that the system does not take leads nowhere in any tree. -/
theorem locate_of_not_usable {p : Path} (h : ¬Usable p) :
    ∃ e, (e = .notFound → p.text = "") ∧ ∀ t : FileTree, t.locate p = .error e := by
  by_cases hempty : p.text.isEmpty = true
  · exact ⟨.notFound, fun _ => by simpa using hempty, fun t => by rw [locate, if_pos hempty]⟩
  by_cases hnul : p.text.toList.contains '\x00' = true
  · exact ⟨.nulInPath, by simp, fun t => by rw [locate, if_neg hempty, if_pos hnul]⟩
  by_cases hlong : pathLimit ≤ p.text.utf8ByteSize
  · exact ⟨.nameTooLong, by simp,
      fun t => by rw [locate, if_neg hempty, if_neg hnul, if_pos hlong]⟩
  · refine absurd ⟨by simpa using hempty, fun hm => hnul ?_, Nat.not_le.mp hlong⟩ h
    simpa using hm

/-- A path that the system takes, and the names that it is followed by. -/
structure Spells (p : Path) (names : List String) : Prop where
  usable : Usable p
  parts : pathParts p = names
  downward : Downward names

namespace Spells

variable {p : Path} {names : List String} (h : Spells p names) {t : FileTree}

include h

theorem locate_error {e : IoError} (hf : t.follow names = .error e) : t.locate p = .error e :=
  locate_of_error h.usable (by rw [h.parts, hf])

/-- The names lead to the path's location, unless the path is to be a directory and is a file. -/
theorem locate_of_follow (hf : t.follow names = .ok names) :
    t.locate p = .ok names ∨
      t.locate p = .error .notDirectory ∧ endsAsDirectory p = true ∧
        ∃ content, t.node? names = some (.file content) := by
  rw [locate_eq t h.usable, h.parts, hf, Except.bind]
  cases hd : endsAsDirectory p with
  | false => exact Or.inl rfl
  | true =>
    rcases t.node? names with _ | _ | content
    · exact Or.inl rfl
    · exact Or.inl rfl
    · exact Or.inr ⟨rfl, rfl, content, rfl⟩

theorem locate_of_not_file (hf : t.follow names = .ok names)
    (hn : ∀ content, t.node? names ≠ some (.file content)) : t.locate p = .ok names := by
  rcases h.locate_of_follow hf with hl | ⟨-, -, content, hc⟩
  · exact hl
  · exact absurd hc (hn content)

theorem locate_ok {l : Location} (hl : t.locate p = .ok l) :
    l = names ∧ t.follow names = .ok names := by
  cases hf : t.follow names with
  | error e =>
    rw [h.locate_error hf] at hl
    cases hl
  | ok k =>
    have hk := follow_ok h.downward hf
    subst hk
    rcases h.locate_of_follow hf with hl' | ⟨hl', -, -⟩
    · rw [hl', Except.ok.injEq] at hl
      exact ⟨hl.symm, rfl⟩
    · rw [hl'] at hl
      cases hl

theorem find_error {e : IoError} (hf : t.follow names = .error e) : t.find p = .error e := by
  rw [find, h.locate_error hf]
  rfl

theorem find_none (hf : t.follow names = .ok names) (hn : t.node? names = none) :
    t.find p = .error .notFound := by
  rw [find, h.locate_of_not_file hf (by simp [hn])]
  simp only [bind, Except.bind, hn]

theorem find_directory (hf : t.follow names = .ok names) (hn : t.node? names = some .directory) :
    t.find p = .ok (names, .directory) := by
  rw [find, h.locate_of_not_file hf (by simp [hn])]
  simp only [bind, Except.bind, hn]

theorem find_ok {l : Location} {n : FileNode} (hl : t.find p = .ok (l, n)) :
    l = names ∧ t.locate p = .ok names ∧ t.follow names = .ok names ∧ t.node? names = some n := by
  rw [find] at hl
  cases hk : t.locate p with
  | error e =>
    rw [hk] at hl
    cases hl
  | ok k =>
    obtain ⟨rfl, hf⟩ := h.locate_ok hk
    rw [hk] at hl
    simp only [bind, Except.bind] at hl
    split at hl
    · rename_i n' hn
      rw [Except.ok.injEq, Prod.mk.injEq] at hl
      rw [← hl.1, ← hl.2]
      exact ⟨rfl, rfl, hf, hn⟩
    · cases hl

theorem find_notFound (hl : t.find p = .error .notFound) : t.Missing names := by
  cases hf : t.follow names with
  | error e =>
    rw [h.find_error hf] at hl
    cases hl
    exact Or.inl hf
  | ok k =>
    have hk := follow_ok h.downward hf
    subst hk
    cases hn : t.node? k with
    | none => exact Or.inr ⟨hf, hn⟩
    | some n =>
      rw [find] at hl
      rcases h.locate_of_follow hf with hk | ⟨hk, -, -⟩
      · rw [hk] at hl
        simp only [bind, Except.bind, hn] at hl
        cases hl
      · rw [hk] at hl
        cases hl

theorem find_of_missing (hm : t.Missing names) : t.find p = .error .notFound := by
  rcases hm with hf | ⟨hf, hn⟩
  · exact h.find_error hf
  · exact h.find_none hf hn

theorem read_of_missing (hm : t.Missing names) : t.read p = .error .notFound := by
  unfold FileTree.read
  rw [h.find_of_missing hm]

end Spells

/-- A path of names that the system takes: a name in a directory, and the directories above. -/
structure Leads (p : Path) (absolute : Bool) (dirs : List String) (name : String) : Prop where
  spells : Spells p (dirs ++ [name])
  components : p.components = Path.lead absolute ++ (dirs ++ [name]).map .name
  above : ∀ ms, ms <+: dirs → ms ≠ [] → Spells (Path.ofNames absolute ms) ms
  isName : ∀ s ∈ dirs, Path.IsName s

theorem downward_of_isName {names : List String} (h : ∀ s ∈ names, Path.IsName s) :
    Downward names := by
  intro s hs he
  have hname := (h s hs).1
  rw [he] at hname
  simp [Path.component?] at hname

/-- A path with no more in it than one that the system takes is taken as well. -/
theorem Usable.of_sublist {p q : Path} (h : Usable p) (hne : q.text ≠ "")
    (hs : q.text.toList.Sublist p.text.toList) : Usable q := by
  refine ⟨hne, fun hm => h.2.1 (hs.subset hm), Nat.lt_of_le_of_lt ?_ h.2.2⟩
  have hsize := Path.utf8ByteSize_le_of_sublist hs
  rwa [String.ofList_toList, String.ofList_toList] at hsize

theorem usable_ofNames {absolute : Bool} {ms : List String} {p : Path} (hu : Usable p)
    (hne : ms ≠ []) (hn : ∀ s ∈ ms, Path.IsName s)
    (hs : (Path.ofNames absolute ms).text.toList.Sublist p.text.toList) :
    Usable (Path.ofNames absolute ms) := by
  refine hu.of_sublist (fun hempty => hne ?_) hs
  have hparts := Path.pathParts_ofNames absolute hn
  rw [pathParts, hempty] at hparts
  exact hparts.symm

/-- A plain path that the system takes leads to a name in a directory, unless it is the top. -/
theorem leads_of_plain {p : Path} (hp : p.Plain) (hu : Usable p) (hne : pathParts p ≠ []) :
    ∃ absolute dirs name, Leads p absolute dirs name := by
  obtain ⟨absolute, hcomponents, hnames, htext⟩ := hp.shape
  obtain hnil | ⟨dirs, name, hparts⟩ := List.eq_nil_or_concat (pathParts p)
  · exact absurd hnil hne
  rw [List.concat_eq_append] at hparts
  rw [hparts] at hcomponents hnames htext
  refine ⟨absolute, dirs, name, ⟨hu, hparts, downward_of_isName hnames⟩, hcomponents,
    fun ms hms hnil => ?_, fun s hs => hnames s (List.mem_append_left _ hs)⟩
  have hms := hms.trans (List.prefix_append dirs [name])
  have hisName : ∀ s ∈ ms, Path.IsName s := fun s hs => hnames s (hms.subset hs)
  refine ⟨usable_ofNames hu hnil hisName ?_, Path.pathParts_ofNames absolute hisName,
    downward_of_isName hisName⟩
  obtain ⟨rest, hrest⟩ := hms
  rw [← hrest] at htext
  exact (Path.ofNames_sublist absolute ms rest).trans htext

namespace Leads

variable {p : Path} {absolute : Bool} {dirs : List String} {name : String}
  (h : Leads p absolute dirs name)

include h

theorem downward_dirs : Downward dirs := h.spells.downward.left

theorem parent? : p.parent? = some (Path.ofNames absolute dirs) :=
  Path.parent?_of_components h.components

theorem ancestors : Staged.ancestors p = Path.dirsOf absolute dirs :=
  Path.ancestors_of_components h.components h.isName

end Leads

end FileTree
end Testsmith
