/-
# The class under test in the index

The type of a file is read twice: for the index as a declaration, for the test as a part of the
facts. Both are of the same type, and of the same package (`seesSame_factsOf`); a file without a
package has none for the index, and an empty one in its facts. So the index gives for the name of a
type just what the test of the type imports, if no other file of a package declares the name
(`index_knowsSubjects`).

Key definitions: `SeesSame`, `DeclaresAlone`, `KnowsSubject`.
Key theorems: `seesSame_factsOf`, `getLast?_declaring_of_declaresAlone`, `index_knowsSubjects`.
-/
import Testsmith.Proofs.Imports.Stable
import Testsmith.Proofs.Symbols.Index
import Testsmith.Run

namespace Testsmith

open SymbolIndex (declaring packaged ofFiles)

/-- The facts and the declaration that were found are of one type. -/
structure SeesSame (facts : SourceFacts) (found : Option TypeDeclaration) : Prop where
  found_iff : found.isSome = true ↔ facts.className.isSome = true
  same : ∀ d ∈ found, facts.className = some d.name ∧ facts.kind = some d.kind ∧
    facts.package = d.package.getD ""

/-- The file has a package and declares a type of the name, and no other file with a package that is
found in the project does. -/
structure DeclaresAlone (p : Project) (t : FileTree) (file : Path) (source name : String) :
    Prop where
  found : file ∈ p.allSources t
  read : t.readText file = .ok source
  packaged : (Java.analyze source).package ≠ ""
  declared : (Java.analyze source).className = some name
  alone : ∀ other ∈ p.allSources t, other ≠ file → ∀ text, t.readText other = .ok text →
    ∀ d ∈ Java.scanDeclaration text, d.package.isSome = true → d.name ≠ name

/-- The index has for the name what the test of the type imports. -/
structure KnowsSubject (p : Project) (index : SymbolIndex) (file : Path) (source : String)
    (facts : SourceFacts) (name : String) : Prop where
  resolve : index.resolve? name = some (facts.package ++ "." ++ name)
  subject : subjectImport facts.package name = [facts.package ++ "." ++ name]
  imported : ∀ text,
    facts.package ++ "." ++ name ∈ (resolveImports text facts.package name index).imports
  /-- A run names the class under test after its file. So it imports this type for the test of the
  file exactly if the file has the name of the type. -/
  run_iff : subjectImport (p.repairJob index file source facts).package
      (p.repairJob index file source facts).request.className =
        [facts.package ++ "." ++ name] ↔ Project.className file = name

/-! ### One type for both -/

namespace Java

theorem declarationOf?_eq (root : Node) : declarationOf? root =
    (primaryType? root).bind fun t => t.2.name?.map fun name =>
      ⟨packageName? root, name.text, t.1⟩ := by
  rw [declarationOf?]
  cases primaryType? root with
  | none => rfl
  | some t => cases h : t.2.name? <;> simp [h]

theorem factsOf_className (tree : SyntaxTree) :
    (factsOf tree).className = (declarationOf? tree.root).map (·.name) := by
  rw [declarationOf?_eq, factsOf]
  cases primaryType? tree.root with
  | none => rfl
  | some t => simp [Function.comp_def]

theorem factsOf_kind (tree : SyntaxTree) :
    (factsOf tree).kind = (primaryType? tree.root).map (·.1) := by
  rw [factsOf]
  cases primaryType? tree.root <;> rfl

theorem factsOf_package (tree : SyntaxTree) :
    (factsOf tree).package = (packageName? tree.root).getD "" := by
  rw [factsOf]
  cases primaryType? tree.root <;> rfl

/-- **The declaration in a tree and the facts it shows are of one type.** -/
theorem seesSame_factsOf (tree : SyntaxTree) :
    SeesSame (factsOf tree) (declarationOf? tree.root) where
  found_iff := by rw [factsOf_className, Option.isSome_map]
  same := by
    intro d hd
    have hclass : (factsOf tree).className = some d.name := by
      rw [factsOf_className, Option.mem_def.mp hd, Option.map_some]
    rw [Option.mem_def, declarationOf?_eq, Option.bind_eq_some_iff] at hd
    obtain ⟨t, ht, hd⟩ := hd
    obtain ⟨name, -, rfl⟩ := Option.map_eq_some_iff.mp hd
    refine ⟨hclass, ?_, factsOf_package tree⟩
    rw [factsOf_kind, ht, Option.map_some]

end Java

namespace SeesSame

variable {facts : SourceFacts} {found : Option TypeDeclaration}

/-- A type of the facts that has a package is declared in it. -/
theorem exists_of_packaged (h : SeesSame facts found) (hpackage : facts.package ≠ "")
    {name : String} (hname : facts.className = some name) :
    ∃ d, found = some d ∧ d.name = name ∧ d.package = some facts.package := by
  obtain ⟨d, hd⟩ := Option.isSome_iff_exists.mp (h.found_iff.mpr (by rw [hname]; rfl))
  obtain ⟨hclass, -, hsame⟩ := h.same d hd
  refine ⟨d, hd, Option.some.inj (hclass.symm.trans hname), ?_⟩
  cases hd' : d.package with
  | none => exact absurd (by rw [hsame, hd']; rfl) hpackage
  | some package => rw [hsame, hd', Option.getD_some]

end SeesSame

/-! ### The index of a project -/

variable {p : Project} {t : FileTree} {file : Path} {source name : String}

/-- The declaration of the file is the last one of its name in the project. -/
theorem getLast?_declaring_of_declaresAlone (h : DeclaresAlone p t file source name) :
    (declaring name (packaged ((p.allSources t).filterMap (declarationIn? t)))).getLast?.map
      (·.2.qualifiedName) = some ((Java.analyze source).package ++ "." ++ name) := by
  obtain ⟨d, hscan, rfl, hpackage⟩ :=
    (Java.seesSame_factsOf (Java.parse source)).exists_of_packaged h.packaged h.declared
  have hin : declarationIn? t file = some (file, d) :=
    declarationIn?_eq_some_iff.mpr ⟨source, h.read, hscan, rfl⟩
  have hmem : (file, d) ∈ packaged ((p.allSources t).filterMap (declarationIn? t)) :=
    List.mem_filter.mpr ⟨List.mem_filterMap.mpr ⟨file, h.found, hin⟩, by simp [hpackage]⟩
  have halone : ∀ y ∈ packaged ((p.allSources t).filterMap (declarationIn? t)),
      y.2.name = d.name → y = (file, d) := by
    intro y hy hname
    obtain ⟨hy, hypackage⟩ := List.mem_filter.mp hy
    obtain ⟨other, hother, hy⟩ := List.mem_filterMap.mp hy
    by_cases hfile : other = file
    · rw [hfile, hin] at hy
      exact (Option.some.inj hy).symm
    · obtain ⟨text, hread, hyscan, -⟩ := declarationIn?_eq_some_iff.mp hy
      exact absurd hname (h.alone other hother hfile text hread y.2 hyscan hypackage)
  have hlast := SymbolIndex.getLast?_declaring_of_alone hmem halone
  rw [hlast, Option.map_some, TypeDeclaration.qualifiedName, hpackage]
  rfl

theorem subjectImport_of_packaged {package : String} (h : package ≠ "") (className : String) :
    subjectImport package className = [package ++ "." ++ className] := by
  rw [subjectImport, if_neg (by simpa using h)]

theorem knowsSubject_of_declaresAlone (h : DeclaresAlone p t file source name) {index : SymbolIndex}
    (hindex : ofFiles .lastWins t (p.allSources t) = .ok index) :
    KnowsSubject p index file source (Java.analyze source) name where
  resolve := by
    rw [(SymbolIndex.records_of_ofDeclarations hindex).2.resolve]
    exact getLast?_declaring_of_declaresAlone h
  subject := subjectImport_of_packaged h.packaged name
  imported := by
    intro text
    refine mem_resolveImports.mpr (Or.inr ?_)
    simp [calledFor, subjectImport_of_packaged h.packaged]
  run_iff := by
    rw [Project.repairJob, subjectImport_of_packaged h.packaged]
    simp [String.append_right_inj]

/-- **The index knows the class under test** by the name by which its test imports it. -/
theorem index_knowsSubjects (p : Project) (t : FileTree) :
    (∀ source, SeesSame (Java.analyze source) (Java.scanDeclaration source)) ∧
      ∃ index, ofFiles .lastWins t (p.allSources t) = .ok index ∧
        (∀ built, p.index t = .ok built → built = index) ∧
        ∀ file source name, DeclaresAlone p t file source name →
          KnowsSubject p index file source (Java.analyze source) name := by
  refine ⟨fun source => Java.seesSame_factsOf (Java.parse source), ?_⟩
  obtain ⟨index, hindex, -⟩ := SymbolIndex.ofDeclarations_lastWins
    (SymbolIndex.packaged_packaged ((p.allSources t).filterMap (declarationIn? t)))
  rw [← SymbolIndex.ofDeclarations_packaged] at hindex
  refine ⟨index, hindex, fun built hbuilt => ?_, fun file source name h =>
    knowsSubject_of_declaresAlone h hindex⟩
  have hsame := (SymbolIndex.records_of_ofDeclarations hbuilt).1
  exact Except.ok.inj (hsame.symm.trans hindex)

/-- A project whose second file declares a type of the same name, but in no package. -/
def namesakeProject : Project :=
  ⟨⟨"/shop"⟩, { project :=
    { sourceRoot := ⟨"src"⟩, testRoot := ⟨"test"⟩, includePatterns := ["Cart.java", "Old.java"],
      excludePatterns := [] } }⟩

def namesakeTree : FileTree :=
  ⟨[(["shop"], .directory), (["shop", "src"], .directory),
    (["shop", "src", "Cart.java"], .file "package shop; class Cart \x7b\x7d".toUTF8),
    (["shop", "src", "Old.java"], .file "class Cart \x7b\x7d".toUTF8)]⟩

theorem allSources_namesake : namesakeProject.allSources namesakeTree =
    [⟨"/shop/src/Cart.java"⟩, ⟨"/shop/src/Old.java"⟩] :=
  discover_of_ordered (by decide +kernel) (by decide +kernel)

theorem facts_namesake : let facts := Java.analyze "package shop; class Cart \x7b\x7d"
    (facts.package, facts.className) = ("shop", some "Cart") := by
  decide +kernel

theorem declaresAlone_namesake : DeclaresAlone namesakeProject namesakeTree
    ⟨"/shop/src/Cart.java"⟩ "package shop; class Cart \x7b\x7d" "Cart" where
  found := by
    rw [allSources_namesake]
    exact List.mem_cons_self
  read := by decide +kernel
  packaged := by
    rw [(Prod.mk.inj facts_namesake).1]
    decide
  declared := (Prod.mk.inj facts_namesake).2
  alone := by
    have hold : namesakeTree.readText ⟨"/shop/src/Old.java"⟩ = .ok "class Cart \x7b\x7d" := by
      decide +kernel
    have hscan : (Java.scanDeclaration "class Cart \x7b\x7d").bind (·.package) = none := by
      decide +kernel
    intro other hother hne text hread d hd hpackage
    rw [allSources_namesake] at hother
    obtain rfl : other = ⟨"/shop/src/Old.java"⟩ := by simpa [hne] using hother
    obtain rfl : "class Cart \x7b\x7d" = text := Except.ok.inj (hold.symm.trans hread)
    rw [Option.mem_def.mp hd, Option.bind_some] at hscan
    rw [hscan] at hpackage
    cases hpackage

/-- The namesake in no package is not in the way. -/
theorem index_knowsSubjects_namesake :
    DeclaresAlone namesakeProject namesakeTree ⟨"/shop/src/Cart.java"⟩
        "package shop; class Cart \x7b\x7d" "Cart" ∧
      ∃ index,
        ofFiles .lastWins namesakeTree (namesakeProject.allSources namesakeTree) = .ok index ∧
          index.resolve? "Cart" = some "shop.Cart" := by
  refine ⟨declaresAlone_namesake, ?_⟩
  obtain ⟨-, index, hindex, -, hknows⟩ := index_knowsSubjects namesakeProject namesakeTree
  have hresolve := (hknows _ _ _ declaresAlone_namesake).resolve
  rw [(Prod.mk.inj facts_namesake).1] at hresolve
  exact ⟨index, hindex, hresolve⟩

end Testsmith
