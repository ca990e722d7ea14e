/-
# Tests stay under the test root

The path of a test goes on from the test root with one component for each part of the package and
the name of the test class, exactly if there is no slash in the package (`destination_mirrors_iff`).
The package is what stands in the source, with any comments in it, so that it can have slashes: a
part with one inside gives several components, and a part that begins with one is a path from the
top.

As long as no part is a path from the top, the test goes under the test root all the same: neither
when it is staged, nor when it is taken back or saved, is a file touched that is not below the root
(`Confined`).

Key definitions: `partsOf`, `Mirrors`, `StaysWithin`, `Confined`.
Key theorems: `prefix_destination`, `confined_destination`, `destination_mirrors_iff`.
-/
import Testsmith.Proofs.Files.Touched
import Testsmith.Proofs.Run.Places
import Testsmith.Proofs.Text.Words
import Testsmith.Run

namespace Testsmith

open FileTree

/-! ### Components for the parts of a package -/

/-- The parts of a package between its points. There is no part where nothing stands. -/
def partsOf (package : String) : List String :=
  ((package.toList.splitOn '.').filter fun s => !s.isEmpty).map String.ofList

/-- The path goes on from the root with one component for each part of the package, and then with
the file of the test class. -/
def Mirrors (root : Path) (package testClass : String) (p : Path) : Prop :=
  p.components =
    root.components ++ (partsOf package).map Path.Component.name ++ [.name (testClass ++ ".java")]

instance (root : Path) (package testClass : String) (p : Path) :
    Decidable (Mirrors root package testClass p) :=
  inferInstanceAs (Decidable (_ = _))

theorem splitPoints_eq_splitOn : ∀ cs : List Char, splitPoints cs = cs.splitOn '.'
  | [] => rfl
  | c :: cs => by
    have ih := splitPoints_eq_splitOn cs
    rw [List.splitOn_cons_eq_if_modifyHead, ← ih, splitPoints]
    by_cases hc : c = '.'
    · rw [hc]
      rfl
    · rw [if_neg (by simpa using hc), beq_false_of_ne hc]
      cases hs : splitPoints cs with
      | nil => exact absurd hs (splitPoints_ne_nil cs)
      | cons s ss => rfl

theorem packageSegments_eq (package : String) : packageSegments package = partsOf package := by
  rw [packageSegments, splitPoints_eq_splitOn, partsOf]

/-- A part is a text without points, and not the empty one. -/
theorem mem_partsOf {package part : String} (h : part ∈ partsOf package) :
    '.' ∉ part.toList ∧ part.toList ≠ [] := by
  obtain ⟨s, hs, rfl⟩ := List.mem_map.mp h
  obtain ⟨hmem, hne⟩ := List.mem_filter.mp hs
  rw [← splitPoints_eq_splitOn] at hmem
  rw [String.toList_ofList]
  exact ⟨not_point_of_mem_splitPoints hmem, by simpa using hne⟩

/-- Every character of a package but the points is in one of the parts. -/
theorem exists_part_of_mem {package : String} {c : Char} (hc : c ∈ package.toList)
    (hpoint : c ≠ '.') : ∃ part ∈ partsOf package, c ∈ part.toList := by
  have hback : ['.'].intercalate (package.toList.splitOn '.') = package.toList :=
    List.intercalate_splitOn '.'
  rw [← hback] at hc
  obtain hc | ⟨s, hs, hcs⟩ := Text.mem_intercalate hc
  · exact absurd (List.mem_singleton.mp hc) hpoint
  · refine ⟨String.ofList s, List.mem_map_of_mem (List.mem_filter.mpr ⟨hs, ?_⟩), ?_⟩
    · cases s with
      | nil => cases hcs
      | cons _ _ => rfl
    · rwa [String.toList_ofList]

/-- A character of a part is one of the package. -/
theorem mem_of_mem_partsOf {package part : String} {c : Char} (h : part ∈ partsOf package)
    (hc : c ∈ part.toList) : c ∈ package.toList := by
  obtain ⟨s, hs, rfl⟩ := List.mem_map.mp h
  rw [String.toList_ofList] at hc
  have hback : ['.'].intercalate (package.toList.splitOn '.') = package.toList :=
    List.intercalate_splitOn '.'
  rw [← hback]
  have hsub : (['.'].intercalate [s]).Sublist
      (['.'].intercalate (package.toList.splitOn '.')) :=
    Path.intercalate_sublist (List.singleton_sublist.mpr (List.mem_filter.mp hs).1)
  rw [List.intercalate_singleton] at hsub
  exact hsub.subset hc

theorem isName_of_part {part : String} (hpoint : '.' ∉ part.toList) (hne : part.toList ≠ [])
    (hslash : '/' ∉ part.toList) : Path.IsName part := by
  refine ⟨?_, hslash⟩
  have hhere : part.toList ≠ ['.'] := fun h => hpoint (by rw [h]; decide)
  have hup : part.toList ≠ ['.', '.'] := fun h => hpoint (by rw [h]; decide)
  rw [Path.component?_eq, if_neg (by simp [hhere, hne]), if_neg hup, String.ofList_toList]

theorem isName_file {testClass : String} (h : '/' ∉ testClass.toList) :
    Path.IsName (testClass ++ ".java") := by
  have hlong : 5 ≤ (testClass ++ ".java").toList.length := by
    rw [String.toList_append, List.length_append]
    exact Nat.le_add_left 5 _
  have hshort (s : List Char) (hs : s.length < 5) : (testClass ++ ".java").toList ≠ s := by
    intro he
    rw [he] at hlong
    omega
  have hsays : ¬((testClass ++ ".java").toList.isEmpty ||
      (testClass ++ ".java").toList == ['.']) = true := by
    simp only [Bool.or_eq_true, List.isEmpty_iff, beq_iff_eq, not_or]
    exact ⟨hshort [] (by decide), hshort ['.'] (by decide)⟩
  refine ⟨?_, ?_⟩
  · rw [Path.component?_eq, if_neg hsays, if_neg (hshort ['.', '.'] (by decide)),
      String.ofList_toList]
  · rw [String.toList_append, List.mem_append, not_or]
    exact ⟨h, by decide⟩

theorem components_foldl_join (root : Path) : ∀ {names : List String},
    (∀ s ∈ names, Path.IsName s) →
      (names.foldl Path.join root).components = root.components ++ names.map .name
  | [], _ => (List.append_nil _).symm
  | s :: names, h => by
    rw [List.forall_mem_cons] at h
    rw [List.foldl_cons, components_foldl_join _ h.2, Path.components_join root h.1, List.map_cons,
      List.append_assoc, List.singleton_append]

/-- **Without slashes the path has a component for each part.** -/
theorem mirrors_of_not_slash (root : Path) {package testClass : String}
    (hpackage : '/' ∉ package.toList) (hclass : '/' ∉ testClass.toList) :
    Mirrors root package testClass (destination root package testClass) := by
  have hnames : ∀ s ∈ packageSegments package, Path.IsName s := by
    rw [packageSegments_eq]
    intro s hs
    obtain ⟨hpoint, hne⟩ := mem_partsOf hs
    exact isName_of_part hpoint hne fun hc => hpackage (mem_of_mem_partsOf hs hc)
  rw [Mirrors, destination, Path.components_join _ (isName_file hclass),
    components_foldl_join root hnames, packageSegments_eq]

/-- No component of a path has a slash. -/
theorem not_slash_of_mirrors {root p : Path} {package testClass : String}
    (h : Mirrors root package testClass p) : '/' ∉ package.toList := by
  intro hslash
  obtain ⟨part, hpart, hc⟩ := exists_part_of_mem hslash (by decide)
  have hmem : Path.Component.name part ∈ p.components := by
    rw [h]
    exact List.mem_append_left _ (List.mem_append_right _ (List.mem_map_of_mem hpart))
  exact (isName_of_mem (Path.components_regular p) hmem).2 hc

/-! ### Under the root -/

theorem prefix_join (p : Path) {s : String} (h : (⟨s⟩ : Path).isAbsolute = false) :
    p.components <+: (p.join s).components := by
  rw [Path.join, Path.push, h, if_neg (by simp), Path.components, Path.components]
  by_cases hempty : p.text.isEmpty = true
  · have htext : p.text = "" := by simpa using hempty
    rw [htext]
    exact List.nil_prefix
  have hne : p.text.toList ≠ [] := by simpa using hempty
  by_cases hends : p.text.endsWith "/" = true
  · obtain ⟨cs, hcs⟩ := Path.endsWith_iff.mp hends
    have htext : p.text.toList = cs ++ ['/'] := hcs.symm
    simp only [hends, Bool.or_true, if_true, String.toList_append, htext, List.append_assoc,
      List.singleton_append]
    by_cases hroot : cs = []
    · obtain ⟨d, ds, hd⟩ := List.exists_cons_of_ne_nil (Path.splitSlashes_ne_nil s.toList)
      rw [hroot, Path.componentsList, Path.componentsList, List.nil_append, List.nil_append,
        Path.splitSlashes.eq_2 s.toList, hd]
      exact List.cons_prefix_cons.mpr ⟨rfl, List.nil_prefix⟩
    · have hnothing : (Path.splitSlashes []).filterMap Path.component? = [] := rfl
      rw [Path.componentsList_append hroot, Path.componentsList_append hroot, hnothing,
        List.append_nil]
      exact List.prefix_append _ _
  · simp only [hempty, hends, Bool.or_self, Bool.false_eq_true, if_false, String.toList_append,
      List.append_assoc]
    rw [show "/".toList = ['/'] from rfl, List.singleton_append, Path.componentsList_append hne]
    exact List.prefix_append _ _

theorem prefix_foldl_join (root : Path) : ∀ {names : List String},
    (∀ s ∈ names, (⟨s⟩ : Path).isAbsolute = false) →
      root.components <+: (names.foldl Path.join root).components
  | [], _ => List.prefix_refl _
  | s :: names, h => by
    rw [List.forall_mem_cons] at h
    exact (prefix_join root h.1).trans (prefix_foldl_join (root.join s) h.2)

/-- Where no part is a path from the top, the path goes on from the root. -/
theorem prefix_destination (root : Path) {package testClass : String}
    (hpackage : RelativePackage package) (hclass : '/' ∉ testClass.toList) :
    root.components <+: (destination root package testClass).components := by
  rw [destination, Path.components_join _ (isName_file hclass)]
  exact (prefix_foldl_join root hpackage).trans (List.prefix_append _ _)

/-- No file outside the root has changed, and no directory but those on the way to the root. -/
structure StaysWithin (root : Path) (t u : FileTree) : Prop where
  files : ∀ l, u.fileAt l ≠ t.fileAt l → spelled root <+: l
  dirs : ∀ l, u.node? l ≠ t.node? l → spelled root <+: l ∨ OnWay (pathParts root) l

/-- Whatever is done with a test at the path, to whatever tree, stays within the root. -/
structure Confined (root p : Path) : Prop where
  save : ∀ (a : Artifact) (t : FileTree), a.path = p → StaysWithin root t (a.save t).2
  stage : ∀ (t : FileTree) content, StaysWithin root t (Staged.stage t p content).2
  /-- Also when the tree has changed in the meantime. -/
  putBack : ∀ (t u : FileTree) content s, Staged.stage t p content = (.ok s, u) →
    ∀ w, StaysWithin root w (s.putBack w).2

/-- What parts lead through that only go down from others is on the way to these or below them. -/
theorem onWay_append {parts names : List String} (hdown : ∀ s ∈ names, s ≠ "..") {l : Location}
    (h : OnWay (parts ++ names) l) : spell parts <+: l ∨ OnWay parts l := by
  obtain ⟨ms, ⟨rest, hrest⟩, rfl⟩ := h
  rcases List.append_eq_append_iff.mp hrest with ⟨as, hparts, -⟩ | ⟨as, hms, hnames⟩
  · exact Or.inr ⟨ms, ⟨as, hparts.symm⟩, rfl⟩
  · left
    rw [hms, spell_append_down parts fun s hs => hdown s (hnames ▸ List.mem_append_left _ hs)]
    exact List.prefix_append _ _

theorem staysWithin_of_touches {root : Path} {names : List String} (hdown : ∀ s ∈ names, s ≠ "..")
    {t u : FileTree} (h : Touches (pathParts root ++ names) t u) : StaysWithin root t u where
  files := by
    intro l hl
    by_contra hnot
    refine hl (h.files l ?_)
    rintro rfl
    rw [spell_append_down _ hdown] at hnot
    exact hnot (List.prefix_append _ _)
  dirs := fun l hl => onWay_append hdown (h.way l hl)

/-- **A test of a package without paths from the top stays within the root.** -/
theorem confined_destination (root : Path) {package testClass : String}
    (hpackage : RelativePackage package) (hclass : '/' ∉ testClass.toList) :
    Confined root (destination root package testClass) := by
  obtain ⟨q, hfile, hq⟩ := destination_filePath root hclass hpackage
  have hparts : pathParts (destination root package testClass) =
      pathParts root ++ (packageParts package ++ [testClass ++ ".java"]) := by
    rw [hfile.above.parts, hq, List.append_assoc]
  have hdown : ∀ s ∈ packageParts package ++ [testClass ++ ".java"], s ≠ ".." := by
    intro s hs
    rcases List.mem_append.mp hs with hs | hs
    · exact ne_up_of_not_point (not_point_of_mem_packageParts hs)
    · rw [List.mem_singleton.mp hs]
      exact hfile.name
  refine ⟨fun a t ha => ?_, fun t content => ?_, fun t u content s hs w => ?_⟩
  · have htouches := place_touches t a.path a.render.toUTF8
    rw [ha, hparts] at htouches
    rw [Artifact.save, ha]
    exact staysWithin_of_touches hdown htouches
  · have htouches := Staged.stage_touches t (destination root package testClass) content
    rw [hparts] at htouches
    exact staysWithin_of_touches hdown htouches
  · obtain ⟨hpath, hcreated⟩ := Staged.stage_ok hs
    have htouches := Staged.putBack_touches hcreated w
    rw [hpath, hparts] at htouches
    exact staysWithin_of_touches hdown htouches

/-- **A test has a component for each part of its package exactly if the package has no slash**; and
it stays under the test root, in name and in the tree, if only no part begins with one. -/
theorem destination_mirrors_iff (root : Path) (source : String) {testClass : String}
    (hclass : '/' ∉ testClass.toList) :
    let package := (Java.analyze source).package
    let p := destination root package testClass
    (Mirrors root package testClass p ↔ '/' ∉ package.toList) ∧
      (RelativePackage package → root.components <+: p.components ∧ Confined root p) := by
  intro package p
  exact ⟨⟨not_slash_of_mirrors, fun hpackage => mirrors_of_not_slash root hpackage hclass⟩,
    fun hpackage => ⟨prefix_destination root hpackage hclass,
      confined_destination root hpackage hclass⟩⟩

/-- A class in a package of two parts. -/
theorem destination_mirrors_shop :
    let package := (Java.analyze "package shop.cart; class Cart \x7b\x7d").package
    let p := destination ⟨"/r/test"⟩ package "CartTest"
    '/' ∉ "CartTest".toList ∧ RelativePackage package ∧ p = ⟨"/r/test/shop/cart/CartTest.java"⟩ ∧
      (Mirrors ⟨"/r/test"⟩ package "CartTest" p ↔ '/' ∉ package.toList) ∧
      (RelativePackage package →
        Path.components ⟨"/r/test"⟩ <+: p.components ∧ Confined ⟨"/r/test"⟩ p) := by
  intro package p
  have hpackage : package = "shop.cart" := by decide +kernel
  have hclass : '/' ∉ "CartTest".toList := by decide
  refine ⟨hclass, ?_, ?_, destination_mirrors_iff ⟨"/r/test"⟩ _ hclass⟩
  · rw [hpackage]
    decide +kernel
  · rw [show p = destination ⟨"/r/test"⟩ package "CartTest" from rfl, hpackage]
    decide +kernel

/-- A comment after a point makes a part a path from the top, and the test is saved outside the
root. -/
theorem not_mirrors_comment :
    let package := (Java.analyze "package a./**/b; class A \x7b\x7d").package
    let p := destination ⟨"/r/test"⟩ package "ATest"
    package = "a./**/b" ∧ p = ⟨"/**/b/ATest.java"⟩ ∧
      ¬Mirrors ⟨"/r/test"⟩ package "ATest" p ∧
      ¬Path.components ⟨"/r/test"⟩ <+: p.components ∧ ¬Confined ⟨"/r/test"⟩ p := by
  intro package p
  have hpackage : package = "a./**/b" := by decide +kernel
  have hp : p = ⟨"/**/b/ATest.java"⟩ := by
    rw [show p = destination ⟨"/r/test"⟩ package "ATest" from rfl, hpackage]
    decide +kernel
  rw [hp, hpackage]
  refine ⟨rfl, rfl, by decide +kernel, by decide +kernel, fun hconfined => ?_⟩
  -- saved to a tree with nothing in it
  have hsaved := (hconfined.save ⟨package, [], "", "ATest", ⟨"/**/b/ATest.java"⟩⟩ .empty rfl).files
    ["**", "b", "ATest.java"]
  rw [hpackage] at hsaved
  exact absurd (hsaved (by decide +kernel)) (by decide +kernel)

end Testsmith
