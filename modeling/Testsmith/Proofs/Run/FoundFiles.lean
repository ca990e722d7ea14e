/-
# The files that are found are a set

Which files are found depends on the patterns only as sets: in what order they are given, how often,
and what cannot be read as one makes no difference (`foundAsSet`). Paths are told apart by their
components, so that no two files of a plan or of a report have the same name (`namesApart`).

Patterns to exclude are matched with the text of a path after the root as the walk has left it. With
a point between two slashes this is not what is displayed, nor what other files with the same
components are matched by. So the files that are found are all that some pattern leads to, without
those that are displayed as another one says, exactly if no pattern leads to a file by such a path
(`selectsDisplayed_iff`); and none does if no component of a pattern stands for a point.

Key definitions: `Includable`, `Excludable`, `FoundAsSet`, `SelectsDisplayed`, `FoundPlainly`.
Key theorems: `mem_foundComponents`, `foundAsSet`, `selectsDisplayed_iff`, `namesApart`,
`discover_isSet`.
-/
import Testsmith.Proofs.Files.Discovery
import Testsmith.Proofs.Glob.Below
import Testsmith.Proofs.Run.Isolation

namespace Testsmith

open Glob

/-! ### Patterns -/

/-- Below the root the text is a pattern for files to include. -/
def Includable (root : Path) (text : String) : Prop :=
  (PathPattern.parse? (belowText root text)).isSome = true

/-- The text is a pattern for files to exclude. -/
def Excludable (text : String) : Prop := (Pattern.parse text).toOption.isSome = true

/-- The pattern in the first text matches the other one. There may be none. -/
def matchesText (pattern text : String) : Bool :=
  (Pattern.parse pattern).toOption.any (·.isMatch text)

/-- Some pattern to include leads to the file. -/
def Included (t : FileTree) (root : Path) (included : List String) (p : Path) : Prop :=
  (∃ e ∈ included, p ∈ matchesBelow t root e) ∧ t.hasFile p = true

/-- The components of the files that are found, in order. -/
def foundComponents (t : FileTree) (root : Path) (included excluded : List String) :
    List (List Path.Component) :=
  (discover t root included excluded).map Path.components

variable {t : FileTree} {root : Path} {included excluded : List String}

theorem isExcluded_eq_false_iff {p : Path} :
    isExcluded root (excluded.filterMap fun e => (Pattern.parse e).toOption) p = false ↔
      ∀ e ∈ excluded, matchesText e (p.relativeText root) = false := by
  rw [isExcluded, List.any_filterMap, List.any_eq_false]
  refine forall_congr' fun e => imp_congr_right fun _ => ?_
  rw [matchesText, ← Bool.not_eq_true]
  cases (Pattern.parse e).toOption <;> rfl

/-- **A file is found, up to what its path says, exactly if some path to it is included and not
excluded.** -/
theorem mem_foundComponents {cs : List Path.Component} :
    cs ∈ foundComponents t root included excluded ↔ ∃ p, Included t root included p ∧
      (∀ e ∈ excluded, matchesText e (p.relativeText root) = false) ∧ p.components = cs := by
  have hkept {p : Path} : (t.hasFile p &&
      !isExcluded root (excluded.filterMap fun e => (Pattern.parse e).toOption) p) = true ↔
      t.hasFile p = true ∧ ∀ e ∈ excluded, matchesText e (p.relativeText root) = false := by
    rw [Bool.and_eq_true, Bool.not_eq_true', isExcluded_eq_false_iff]
  refine mem_components_dropRepeats.trans (List.mem_map.trans (exists_congr fun p => ?_))
  rw [List.mem_filter, List.mem_flatMap, hkept, Included, and_assoc, and_assoc, and_assoc]

/-! ### Sets of patterns -/

/-- Only the set of patterns matters. -/
structure FoundAsSet (t : FileTree) (root : Path) (included excluded : List String) : Prop where
  /-- A file is found exactly if there is a path to it that is included, and no pattern to exclude
  matches what is left of that path after the root. -/
  found : ∀ cs, cs ∈ foundComponents t root included excluded ↔ ∃ p, Included t root included p ∧
    (∀ e ∈ excluded, matchesText e (p.relativeText root) = false) ∧ p.components = cs
  increasing : (discover t root included excluded).Pairwise fun p q => p.compare q = .lt
  /-- Whatever has the same patterns in it, in another order, repeated or with other texts that are
  none, finds the same files. -/
  same : ∀ included' excluded', (∀ e, Includable root e → (e ∈ included' ↔ e ∈ included)) →
    (∀ e, Excludable e → (e ∈ excluded' ↔ e ∈ excluded)) →
      foundComponents t root included' excluded' = foundComponents t root included excluded
  /-- One more pattern to include takes no file away. -/
  adds : ∀ e, foundComponents t root included excluded ⊆
    foundComponents t root (e :: included) excluded
  /-- What is displayed tells the files apart. -/
  displayed : ((discover t root included excluded).map (·.displayRelative root)).Nodup

theorem includable_of_mem {e : String} {p : Path} (h : p ∈ matchesBelow t root e) :
    Includable root e := by
  obtain ⟨pattern, hparse, -⟩ := exists_expand_of_mem_matchesBelow h
  rw [Includable, hparse]
  rfl

theorem excludable_of_matchesText {e text : String} (h : matchesText e text = true) :
    Excludable e := by
  rw [matchesText] at h
  rw [Excludable]
  cases hparse : (Pattern.parse e).toOption with
  | none =>
    rw [hparse] at h
    cases h
  | some p => rfl

theorem included_congr {included' : List String}
    (h : ∀ e, Includable root e → (e ∈ included' ↔ e ∈ included)) (p : Path) :
    Included t root included' p ↔ Included t root included p := by
  refine and_congr_left fun _ => exists_congr fun e => ?_
  exact and_congr_left fun hp => h e (includable_of_mem hp)

theorem foundComponents_congr {included' excluded' : List String}
    (hi : ∀ e, Includable root e → (e ∈ included' ↔ e ∈ included))
    (he : ∀ e, Excludable e → (e ∈ excluded' ↔ e ∈ excluded)) :
    foundComponents t root included' excluded' = foundComponents t root included excluded := by
  refine components_eq_of_ordered (pairwise_discover _ _ _ _) (pairwise_discover _ _ _ _)
    fun cs => ?_
  refine mem_foundComponents.trans (Iff.trans (exists_congr fun p => ?_) mem_foundComponents.symm)
  refine and_congr (included_congr hi p) (and_congr_left fun _ => ?_)
  -- texts that are no patterns match nothing
  have hsub {es es' : List String} (h : ∀ e, Excludable e → (e ∈ es' ↔ e ∈ es))
      (hes : ∀ e ∈ es, matchesText e (p.relativeText root) = false) :
      ∀ e ∈ es', matchesText e (p.relativeText root) = false := by
    intro e hmem
    by_contra hmatch
    rw [Bool.not_eq_false] at hmatch
    have hthere := (h e (excludable_of_matchesText hmatch)).mp hmem
    rw [hes e hthere] at hmatch
    cases hmatch
  exact ⟨hsub fun e h => (he e h).symm, hsub he⟩

theorem isAbsolute_of_mem_discover {f : Path} (h : f ∈ discover t root included excluded) :
    f.isAbsolute = true := by
  have hfound := List.mem_mergeSort.mp (mem_of_mem_dropRepeats h)
  obtain ⟨e, -, hf⟩ := List.mem_flatMap.mp (List.mem_filter.mp hfound).1
  exact isAbsolute_of_mem_matchesBelow hf

/-- **The files that are found depend on sets of patterns**, and what is displayed tells them
apart. -/
theorem foundAsSet (t : FileTree) (root : Path) (included excluded : List String) :
    FoundAsSet t root included excluded where
  found := fun _ => mem_foundComponents
  increasing := pairwise_discover t root included excluded
  same := fun _ _ => foundComponents_congr
  adds := by
    intro e cs hcs
    obtain ⟨p, ⟨⟨e', he', hp⟩, hfile⟩, hrest⟩ := mem_foundComponents.mp hcs
    exact mem_foundComponents.mpr ⟨p, ⟨⟨e', List.mem_cons_of_mem _ he', hp⟩, hfile⟩, hrest⟩
  displayed := by
    rw [List.nodup_iff_pairwise_ne, List.pairwise_map]
    refine (pairwise_discover t root included excluded).imp_of_mem ?_
    intro p q hp hq hlt hsame
    have hcomponents := Path.components_of_displayRelative (isAbsolute_of_mem_discover hp)
      (isAbsolute_of_mem_discover hq) hsame
    rw [Path.compare_eq_iff.mpr hcomponents] at hlt
    cases hlt

/-! ### What is displayed, and what is excluded -/

/-- Files are excluded by what is displayed of them. -/
structure SelectsDisplayed (t : FileTree) (root : Path) (included excluded : List String) :
    Prop where
  /-- The files that are found are all that are included, and displayed as no pattern to exclude
  says. -/
  members : ∀ cs, cs ∈ foundComponents t root included excluded ↔ ∃ p,
    Included t root included p ∧
      (∀ e ∈ excluded, matchesText e (p.displayRelative root) = false) ∧ p.components = cs
  /-- One more pattern to exclude takes away the files that it matches, and no others. -/
  removes : ∀ e, foundComponents t root included (e :: excluded) =
    ((discover t root included excluded).filter fun p =>
      !matchesText e (p.displayRelative root)).map Path.components

/-- What is left of the path of a file after the root is what is displayed of it. -/
def FoundPlainly (t : FileTree) (root : Path) (included : List String) : Prop :=
  ∀ p, Included t root included p → p.relativeText root = p.displayRelative root

theorem Path.displayRelative_congr {p q : Path} (h : p.components = q.components) :
    p.displayRelative root = q.displayRelative root := by
  rw [displayRelative, displayRelative, stripBase?, stripBase?, h]

theorem matchesText_escape {s text : String} : matchesText (escape s) text = true ↔ text = s := by
  rw [matchesText, parse_escape]
  exact isMatch_escape s text

theorem FoundPlainly.members (h : FoundPlainly t root included) (excluded : List String)
    (cs : List Path.Component) : cs ∈ foundComponents t root included excluded ↔ ∃ p,
      Included t root included p ∧
        (∀ e ∈ excluded, matchesText e (p.displayRelative root) = false) ∧ p.components = cs := by
  refine mem_foundComponents.trans (exists_congr fun p => and_congr_right fun hp => ?_)
  rw [h p hp]

theorem FoundPlainly.removes (h : FoundPlainly t root included) (excluded : List String)
    (e : String) : foundComponents t root included (e :: excluded) =
      ((discover t root included excluded).filter fun p =>
        !matchesText e (p.displayRelative root)).map Path.components := by
  refine components_eq_of_ordered (pairwise_discover _ _ _ _)
    ((pairwise_discover _ _ _ _).sublist List.filter_sublist) fun cs => ?_
  refine (h.members (e :: excluded) cs).trans ⟨?_, fun hcs => ?_⟩
  · rintro ⟨p, hp, hexcluded, rfl⟩
    rw [List.forall_mem_cons] at hexcluded
    obtain ⟨f, hf, hfp⟩ := List.mem_map.mp
      ((h.members excluded p.components).mpr ⟨p, hp, hexcluded.2, rfl⟩)
    refine List.mem_map.mpr ⟨f, List.mem_filter.mpr ⟨hf, ?_⟩, hfp⟩
    rw [Path.displayRelative_congr hfp, hexcluded.1]
    rfl
  · obtain ⟨f, hf, rfl⟩ := List.mem_map.mp hcs
    obtain ⟨hf, hnot⟩ := List.mem_filter.mp hf
    obtain ⟨p, hp, hexcluded, hpf⟩ :=
      (h.members excluded f.components).mp (List.mem_map_of_mem hf)
    refine ⟨p, hp, List.forall_mem_cons.mpr ⟨?_, hexcluded⟩, hpf⟩
    rw [Path.displayRelative_congr hpf]
    simpa using hnot

/-- **Files are excluded by what is displayed of them exactly if they are found plainly.** A file
that is not is found even if just what is displayed of it is excluded. -/
theorem selectsDisplayed_iff :
    (∀ excluded, SelectsDisplayed t root included excluded) ↔ FoundPlainly t root included := by
  refine ⟨fun h p hp => ?_, fun h excluded => ⟨h.members excluded, h.removes excluded⟩⟩
  by_contra hne
  have hfound : p.components ∈
      foundComponents t root included [escape (p.displayRelative root)] := by
    refine mem_foundComponents.mpr ⟨p, hp, List.forall_mem_singleton.mpr ?_, rfl⟩
    rw [Bool.eq_false_iff, ne_eq, matchesText_escape]
    exact hne
  obtain ⟨q, -, hexcluded, hqp⟩ := ((h _).members _).mp hfound
  have hmatch := hexcluded _ List.mem_cons_self
  rw [Bool.eq_false_iff, ne_eq, matchesText_escape] at hmatch
  exact hmatch (Path.displayRelative_congr hqp)

/-- **Files are found plainly if no component of a pattern stands for a point.** -/
theorem foundPlainly (ht : ProperNames t) (hroot : root.isAbsolute = true)
    (hincluded : ∀ e ∈ included, Unpointed e) : FoundPlainly t root included := by
  rintro p ⟨⟨e, he, hp⟩, -⟩
  exact relativeText_of_mem_matchesBelow ht hroot (hincluded e he) hp

/-! ### The names of files -/

/-- No two files of a plan or a report have the same name. -/
structure NamesApart (p : Project) : Prop where
  planned : ∀ t only plan, p.plan t only = .ok plan → (plan.files.map (·.file)).Nodup
  reported : ∀ {σ : Type} (c : Collaborators (FileTree × σ)) only s report events s',
    p.run c only s = .ok (report, events, s') → (report.files.map (·.file)).Nodup

theorem nodup_display_sources (p : Project) (t : FileTree) (only : Option Pattern) :
    ((p.sources t only).map p.display).Nodup := by
  have hall : ((p.allSources t).map p.display).Nodup := (foundAsSet t p.sourceRoot _ _).displayed
  cases only with
  | none => exact hall
  | some pattern => exact hall.sublist (List.filter_sublist.map p.display)

theorem namesApart (p : Project) : NamesApart p where
  planned := by
    intro t only plan h
    rw [Project.plan] at h
    cases hindex : p.index t with
    | error e =>
      rw [hindex] at h
      cases h
    | ok index =>
      rw [hindex] at h
      rw [← Except.ok.inj h]
      have hfiles : ((p.sources t only).map (p.planEntry t)).map (·.file) =
          (p.sources t only).map p.display := List.map_map
      dsimp only
      rw [hfiles]
      exact nodup_display_sources p t only
  reported := by
    intro σ c only s report events s' h
    rw [Project.run_files h]
    exact nodup_display_sources p s.1 only

/-- **The files that are found are a set in order**: only which patterns there are matters, and the
files of a report have different names. They are those that are included without those that are
displayed as a pattern to exclude says exactly if they are found plainly; and that they are if no
component of a pattern stands for a point. -/
theorem discover_isSet (t : FileTree) (root : Path) (included : List String) :
    (∀ excluded, FoundAsSet t root included excluded) ∧ (∀ p, NamesApart p) ∧
      ((∀ excluded, SelectsDisplayed t root included excluded) ↔ FoundPlainly t root included) ∧
      (ProperNames t → root.isAbsolute = true → (∀ e ∈ included, Unpointed e) →
        FoundPlainly t root included) :=
  ⟨foundAsSet t root included, namesApart, selectsDisplayed_iff, foundPlainly⟩

/-- All sources below the root of a project. -/
theorem discover_isSet_cart :
    let root : Path := ⟨"/shop/src"⟩
    ProperNames cartTree ∧ root.isAbsolute = true ∧ Unpointed "**/*.java" ∧
      ∀ excluded, SelectsDisplayed cartTree root ["**/*.java"] excluded := by
  intro root
  have hnames : ProperNames cartTree := by decide +kernel
  have hroot : root.isAbsolute = true := by decide +kernel
  have hpattern : Unpointed "**/*.java" := by decide +kernel
  obtain ⟨-, -, hselects, hplainly⟩ := discover_isSet cartTree root ["**/*.java"]
  exact ⟨hnames, hroot, hpattern,
    hselects.mpr (hplainly hnames hroot (List.forall_mem_singleton.mpr hpattern))⟩

/-- One class in a directory. -/
def storeTree : FileTree :=
  ⟨[(["r"], .directory), (["r", "a"], .directory), (["r", "a", "A.java"], .file "".toUTF8)]⟩

theorem discover_storeTree :
    discover storeTree ⟨"/r"⟩ ["a/./A.java"] ["a/A.java"] = [⟨"/r/a/./A.java"⟩] :=
  discover_of_ordered (by decide +kernel) (List.pairwise_singleton _ _)

/-- **A point in a pattern to include keeps a file from being excluded.** -/
theorem not_selectsDisplayed_pointed :
    discover storeTree ⟨"/r"⟩ ["a/./A.java"] ["a/A.java"] = [⟨"/r/a/./A.java"⟩] ∧
      Path.displayRelative ⟨"/r/a/./A.java"⟩ ⟨"/r"⟩ = "a/A.java" ∧
      matchesText "a/A.java" "a/A.java" = true ∧
      ¬SelectsDisplayed storeTree ⟨"/r"⟩ ["a/./A.java"] ["a/A.java"] := by
  have hdisplay : Path.displayRelative ⟨"/r/a/./A.java"⟩ ⟨"/r"⟩ = "a/A.java" := by decide +kernel
  have hmatch : matchesText "a/A.java" "a/A.java" = true := by decide +kernel
  refine ⟨discover_storeTree, hdisplay, hmatch, fun h => ?_⟩
  have hfound : Path.components ⟨"/r/a/./A.java"⟩ ∈
      foundComponents storeTree ⟨"/r"⟩ ["a/./A.java"] ["a/A.java"] := by
    rw [foundComponents, discover_storeTree]
    exact List.mem_cons_self
  obtain ⟨q, -, hexcluded, hq⟩ := (h.members _).mp hfound
  have hnot := hexcluded _ List.mem_cons_self
  rw [Path.displayRelative_congr hq, hdisplay, hmatch] at hnot
  cases hnot

end Testsmith
