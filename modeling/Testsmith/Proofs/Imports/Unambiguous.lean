/-
# Imports of the same simple name

A test that imports two types of one simple name does not compile. Imports come from five sources,
and few names are left out of any of them, so which of them can clash is told here: a declared import
with any other, the class under test with a type of the frameworks or of the project, and a type of
the project with another or with one of the frameworks. No others do (`unambiguous_iff`). In an index
of declarations the full names end in the simple ones (`named_ofDeclarations`); then the types of the
project clash with nothing but what the keywords call for.

Key definitions: `importedName?`, `Clashes`, `Unambiguous`, `SymbolIndex.Named`, `ClashesOnly`.
Key theorems: `unambiguous_iff`, `SymbolIndex.named_ofDeclarations`, `resolveImports_clashesOnly`.
-/
import Mathlib.Data.List.Pairwise
import Testsmith.Proofs.Imports.Stable
import Testsmith.Proofs.Symbols.Index

namespace Testsmith

/-- The simple name of the type that is imported, if it is a single type. -/
def importedName? (target : String) : Option String :=
  if "static ".toList <+: target.toList ∨ ".*".toList <:+ target.toList then none
  else some (lastSegment target)

/-- Two imports give the same simple name to different types. -/
def Clashes (a b : String) : Prop := a ≠ b ∧ ∃ name ∈ importedName? a, importedName? b = some name

instance (a b : String) : Decidable (Clashes a b) :=
  inferInstanceAs (Decidable (_ ∧ ∃ name ∈ importedName? a, _ = _))

/-- No import of the first list clashes with one of the second. -/
def Apart (as bs : List String) : Prop := ∀ a ∈ as, ∀ b ∈ bs, ¬Clashes a b

instance (as bs : List String) : Decidable (Apart as bs) :=
  inferInstanceAs (Decidable (∀ a ∈ as, ∀ b ∈ bs, ¬Clashes a b))

/-- None of the imports clashes with another one. -/
def Unambiguous (imports : StringSet) : Prop := Apart imports.toList imports.toList

/-- The imports that a reply declares itself. -/
def declaredImports (text : String) : List String :=
  (declaredTargets (stripFencesList text.toList)).map String.ofList

/-- The imports of every test, and those that the keywords in the body call for. -/
def frameworkImports (body : String) : List String := fixedImports ++ keywordTargets body

/-- The full names in the index end in the simple ones. -/
def SymbolIndex.Named (i : SymbolIndex) : Prop :=
  ∀ name q, i.resolve? name = some q → lastSegment q = name

/-- Which imports of a test clash, if any do. -/
structure ClashesOnly (text package className : String) (index : SymbolIndex)
    (r : ResolvedImports) : Prop where
  /-- For any index. -/
  exact : Unambiguous r.imports ↔
    Apart (declaredImports text) r.imports.toList ∧
      Apart (subjectImport package className)
        (projectTargets r.body className index ++ frameworkImports r.body) ∧
      Apart (projectTargets r.body className index)
        (projectTargets r.body className index ++ frameworkImports r.body)
  /-- For the index of declarations, and a class with a simple name. -/
  built : ∀ policy ds, SymbolIndex.ofDeclarations policy ds = .ok index →
    (∀ d ∈ ds, '.' ∉ d.2.name.toList) → '.' ∉ className.toList →
      (Unambiguous r.imports ↔
        Apart (declaredImports text) r.imports.toList ∧
          Apart (subjectImport package className) (frameworkImports r.body) ∧
          Apart (projectTargets r.body className index) (keywordTargets r.body))

/-! ### Clashes -/

theorem Clashes.symm {a b : String} (h : Clashes a b) : Clashes b a := by
  obtain ⟨hne, name, ha, hb⟩ := h
  exact ⟨hne.symm, name, hb, ha⟩

theorem Apart.symm {as bs : List String} (h : Apart as bs) : Apart bs as :=
  fun b hb a ha hclash => h a ha b hb hclash.symm

theorem apart_append_right {as bs cs : List String} :
    Apart as (bs ++ cs) ↔ Apart as bs ∧ Apart as cs := by
  simp only [Apart, List.forall_mem_append, forall_and]

theorem apart_append_left {as bs cs : List String} :
    Apart (as ++ bs) cs ↔ Apart as cs ∧ Apart bs cs := List.forall_mem_append

theorem Apart.mono {as as' bs bs' : List String} (h : Apart as bs) (has : as' ⊆ as)
    (hbs : bs' ⊆ bs) : Apart as' bs' :=
  fun a ha b hb => h a (has ha) b (hbs hb)

/-- The clashes in two lists are those of the first one and those within the second one. -/
theorem apart_append_self {as bs : List String} :
    Apart (as ++ bs) (as ++ bs) ↔ Apart as (as ++ bs) ∧ Apart bs bs := by
  rw [apart_append_left]
  refine and_congr_right fun h => ?_
  rw [apart_append_right, and_iff_right (apart_append_right.mp h).2.symm]

/-- An import does not clash with itself. -/
theorem apart_singleton (a : String) : Apart [a] [a] := by
  intro b hb c hc hclash
  rw [List.mem_singleton.mp hb, List.mem_singleton.mp hc] at hclash
  exact hclash.1 rfl

theorem apart_subject (package className : String) :
    Apart (subjectImport package className) (subjectImport package className) := by
  rw [subjectImport]
  split
  · intro a ha
    cases ha
  · exact apart_singleton _

/-- Imports of different simple names do not clash. -/
theorem apart_of_nodup {as : List String} (h : (as.filterMap importedName?).Nodup) :
    Apart as as := by
  have hpairs : as.Pairwise fun a b => ¬Clashes a b := by
    refine (List.pairwise_filterMap.mp h).imp ?_
    rintro a b hab ⟨-, name, hname, hname'⟩
    exact hab name hname name hname' rfl
  have : Std.Symm fun a b : String => ¬Clashes a b := ⟨fun _ _ h hclash => h hclash.symm⟩
  intro a ha b hb hclash
  exact hpairs.forall ha hb hclash.1 hclash

theorem frameworkImports_subset (body : String) :
    frameworkImports body ⊆ fixedImports ++ keywordImports.map (·.2) :=
  List.append_subset.mpr ⟨List.subset_append_left _ _,
    List.Subset.trans (List.map_subset _ (List.filter_subset_self _))
      (List.subset_append_right _ _)⟩

/-- The imports for the frameworks do not clash. -/
theorem apart_frameworks (body : String) :
    Apart (frameworkImports body) (frameworkImports body) := by
  have hall : Apart (fixedImports ++ keywordImports.map (·.2))
      (fixedImports ++ keywordImports.map (·.2)) := apart_of_nodup (by decide +kernel)
  exact hall.mono (frameworkImports_subset body) (frameworkImports_subset body)

/-! ### Where imports come from -/

/-- The imports of a test, by where they come from. -/
theorem mem_imports_iff {text package className : String} {index : SymbolIndex}
    {r : ResolvedImports} (hr : resolveImports text package className index = r) (a : String) :
    a ∈ r.imports.toList ↔ a ∈ declaredImports text ++ (subjectImport package className ++
      (projectTargets r.body className index ++ frameworkImports r.body)) := by
  have hmem : a ∈ r.imports.toList ↔ a ∈ declaredImports text ∨
      a ∈ calledFor r.body package className index := by
    subst hr
    exact mem_resolveImports
  rw [hmem, calledFor, frameworkImports]
  simp only [List.mem_append, or_assoc, or_left_comm, or_comm]

/-- **Which imports of a test can clash.** Those for the frameworks clash with one another in no
test. -/
theorem unambiguous_iff {text package className : String} {index : SymbolIndex}
    {r : ResolvedImports} (hr : resolveImports text package className index = r) :
    Unambiguous r.imports ↔
      Apart (declaredImports text) r.imports.toList ∧
        Apart (subjectImport package className)
          (projectTargets r.body className index ++ frameworkImports r.body) ∧
        Apart (projectTargets r.body className index)
          (projectTargets r.body className index ++ frameworkImports r.body) := by
  have hmem := mem_imports_iff hr
  have hsub := fun a => (hmem a).mp
  have hsup := fun a => (hmem a).mpr
  have hall : Unambiguous r.imports ↔ _ :=
    ⟨fun h => Apart.mono h hsup hsup, fun h => Apart.mono h hsub hsub⟩
  have hdeclared : Apart (declaredImports text) r.imports.toList ↔ _ :=
    ⟨fun h => Apart.mono h (List.Subset.refl _) hsup,
      fun h => Apart.mono h (List.Subset.refl _) hsub⟩
  have hsubject (as : List String) :
      Apart (subjectImport package className) (subjectImport package className ++ as) ↔
        Apart (subjectImport package className) as := by
    rw [apart_append_right, and_iff_right (apart_subject package className)]
  rw [hall, apart_append_self, apart_append_self, apart_append_self, hdeclared, hsubject]
  simp only [apart_frameworks, and_true]

/-! ### Types of a project -/

theorem lastSegment_append (package : String) {name : String} (h : '.' ∉ name.toList) :
    lastSegment (package ++ "." ++ name) = name := by
  have hlist : (package ++ "." ++ name).toList = package.toList ++ '.' :: name.toList := by simp
  rw [lastSegment, hlist, lastSegmentList_append _ h, String.ofList_toList]

theorem importedName?_eq_some {target name : String} (h : importedName? target = some name) :
    lastSegment target = name := by
  rw [importedName?] at h
  split at h
  · cases h
  · exact Option.some.inj h

/-- An index of declarations has full names that end in the simple ones. -/
theorem SymbolIndex.named_ofDeclarations {policy : CollisionPolicy} {ds : List Scanned}
    {i : SymbolIndex} (h : ofDeclarations policy ds = .ok i)
    (hds : ∀ d ∈ ds, '.' ∉ d.2.name.toList) : i.Named := by
  intro name q hq
  rw [(records_of_ofDeclarations h).2.resolve, Option.map_eq_some_iff] at hq
  obtain ⟨d, hd, rfl⟩ := hq
  obtain ⟨hpackaged, hname⟩ := List.mem_filter.mp (List.mem_of_getLast? hd)
  obtain ⟨hmem, hpackage⟩ := List.mem_filter.mp hpackaged
  obtain ⟨package, hsome⟩ := Option.isSome_iff_exists.mp hpackage
  rw [TypeDeclaration.qualifiedName, hsome]
  exact (lastSegment_append package (hds d hmem)).trans (of_decide_eq_true hname)

/-- A type of the project is found by its simple name, and is neither the class under test nor the
annotation of tests. -/
theorem mem_projectTargets {body className q : String} {index : SymbolIndex}
    (h : q ∈ projectTargets body className index) :
    ∃ name, index.resolve? name = some q ∧ name ≠ className ∧ name ≠ "Test" := by
  rw [projectTargets, List.mem_filterMap] at h
  obtain ⟨name, hname, hq⟩ := h
  have hkept := (List.mem_filter.mp hname).2
  simp only [Bool.not_eq_true', Bool.or_eq_false_iff, beq_eq_false_iff_ne] at hkept
  exact ⟨name, hq, hkept.1.1, hkept.1.2⟩

section Named

variable {body className : String} {index : SymbolIndex} (hindex : index.Named)

include hindex

theorem importedName?_project {q name : String} (h : q ∈ projectTargets body className index)
    (hname : importedName? q = some name) :
    index.resolve? name = some q ∧ name ≠ className ∧ name ≠ "Test" := by
  obtain ⟨found, hq, hne⟩ := mem_projectTargets h
  obtain rfl : found = name := (hindex found q hq).symm.trans (importedName?_eq_some hname)
  exact ⟨hq, hne⟩

theorem apart_project :
    Apart (projectTargets body className index) (projectTargets body className index) := by
  rintro a ha b hb ⟨hne, name, hname, hname'⟩
  have hq := (importedName?_project hindex ha hname).1
  rw [(importedName?_project hindex hb hname').1] at hq
  exact hne (Option.some.inj hq).symm

theorem apart_project_fixed : Apart (projectTargets body className index) fixedImports := by
  rintro a ha b hb ⟨-, name, hname, hname'⟩
  have hfixed : ∀ target ∈ fixedImports, importedName? target ∈ [none, some "Test"] := by
    decide +kernel
  have hcases := hfixed b hb
  rw [hname'] at hcases
  obtain rfl : name = "Test" := by simpa using hcases
  exact (importedName?_project hindex ha hname).2.2 rfl

theorem apart_subject_project (package : String) (hclass : '.' ∉ className.toList) :
    Apart (subjectImport package className) (projectTargets body className index) := by
  rintro a ha b hb ⟨-, name, hname, hname'⟩
  rw [subjectImport] at ha
  split at ha
  · cases ha
  · rw [List.mem_singleton.mp ha] at hname
    have hsegment := importedName?_eq_some hname
    rw [lastSegment_append package hclass] at hsegment
    exact (importedName?_project hindex hb hname').2.1 hsegment.symm

end Named

/-- **Clashes are those of declared imports, and of types with the name of one of a framework.** -/
theorem resolveImports_clashesOnly (text package className : String) (index : SymbolIndex) :
    ClashesOnly text package className index (resolveImports text package className index) where
  exact := unambiguous_iff rfl
  built := by
    intro policy ds hbuilt hnames hclass
    have hindex := SymbolIndex.named_ofDeclarations hbuilt hnames
    rw [unambiguous_iff rfl, frameworkImports]
    simp only [apart_append_right, apart_project hindex, apart_project_fixed hindex,
      apart_subject_project hindex package hclass, true_and]

/-- A test that imports a `Test` of its own as well as that of the framework. -/
theorem not_unambiguous_declared : ¬Unambiguous
    (resolveImports "import shop.Test;
class CartTest {}" "" "Cart" .empty).imports := by
  intro h
  have hmem := mem_imports_iff
    (rfl : resolveImports "import shop.Test;\nclass CartTest \x7b\x7d" "" "Cart" .empty = _)
  refine h _ ((hmem "shop.Test").mpr ?_) _ ((hmem "org.junit.jupiter.api.Test").mpr ?_) ?_
  · exact List.mem_append_left _ (by decide +kernel)
  · simp only [frameworkImports, fixedImports, List.mem_append, List.mem_cons, true_or, or_true]
  · decide +kernel

end Testsmith
