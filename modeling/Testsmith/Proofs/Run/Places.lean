/-
# Where tests go

The test of a class goes under the test root, in directories for the parts of its package, to a file
with the name of the class (`destination_filePath`). These directories have no points in their names
and the file has one, so that no test goes to where a directory on the way of another is made
(`TestPlace.apart`).

Key definitions: `packageParts`, `RelativePackage`, `TestPlace`.
Key theorems: `destination_filePath`, `TestPlace.apart`, `Project.exists_testPlace`.
-/
import Testsmith.Proofs.Files.Making
import Testsmith.Project

namespace Testsmith

open FileTree

/-- The directories for the parts of a package. -/
def packageParts (package : String) : List String :=
  (packageSegments package).flatMap fun s => pathParts ⟨s⟩

/-- No part of the package is a path from the top. -/
def RelativePackage (package : String) : Prop :=
  ∀ s ∈ packageSegments package, (⟨s⟩ : Path).isAbsolute = false

instance (package : String) : Decidable (RelativePackage package) :=
  inferInstanceAs (Decidable (∀ s ∈ packageSegments package, _ = _))

/-! ### Points and slashes -/

theorem splitPoints_ne_nil : ∀ cs : List Char, splitPoints cs ≠ []
  | [] => by simp [splitPoints]
  | c :: cs => by
    rw [splitPoints]
    split <;> simp

theorem not_point_of_mem_splitPoints : ∀ {cs s : List Char}, s ∈ splitPoints cs → '.' ∉ s
  | [], s, h => by
    rw [List.mem_singleton.mp h]
    exact List.not_mem_nil
  | c :: cs, s, h => by
    have ih {s : List Char} (hs : s ∈ splitPoints cs) := not_point_of_mem_splitPoints hs
    rw [splitPoints] at h
    by_cases hc : c = '.'
    · simp only [hc, beq_self_eq_true] at h
      rcases List.mem_cons.mp h with rfl | h
      · exact List.not_mem_nil
      · exact ih h
    · rw [beq_false_of_ne hc] at h
      cases hs : splitPoints cs with
      | nil => exact absurd hs (splitPoints_ne_nil cs)
      | cons p ps =>
        rw [hs] at h ih
        rcases List.mem_cons.mp h with rfl | h
        · rw [List.mem_cons, not_or]
          exact ⟨Ne.symm hc, ih List.mem_cons_self⟩
        · exact ih (List.mem_cons_of_mem _ h)

/-- A part of a path has no character that the path has not. -/
theorem mem_of_mem_pathParts {c : Char} {p : Path} {part : String} (hpart : part ∈ pathParts p)
    (hc : c ∈ part.toList) : c ∈ p.text.toList := by
  rw [Path.pathParts_eq] at hpart
  obtain ⟨s, hs, rfl⟩ := List.mem_map.mp hpart
  rw [String.toList_ofList] at hc
  have hmem : s ∈ Path.splitSlashes p.text.toList := (List.mem_filter.mp hs).1
  have hsub : (['/'].intercalate [s]).Sublist
      (['/'].intercalate (Path.splitSlashes p.text.toList)) :=
    Path.intercalate_sublist (List.singleton_sublist.mpr hmem)
  rw [List.intercalate_singleton, Path.intercalate_splitSlashes] at hsub
  exact hsub.subset hc

/-- The directories for a package have no points in their names. -/
theorem not_point_of_mem_packageParts {package part : String} (h : part ∈ packageParts package) :
    '.' ∉ part.toList := by
  intro hpoint
  obtain ⟨segment, hsegment, hpart⟩ := List.mem_flatMap.mp h
  obtain ⟨s, hs, rfl⟩ := List.mem_map.mp hsegment
  have hc := mem_of_mem_pathParts hpart hpoint
  rw [String.toList_ofList] at hc
  exact not_point_of_mem_splitPoints (List.mem_filter.mp hs).1 hc

theorem ne_up_of_not_point {part : String} (h : '.' ∉ part.toList) : part ≠ ".." := by
  rintro rfl
  exact h (by decide)

/-! ### Paths of tests -/

/-- A text without slashes is one part, unless it says nothing. -/
theorem pathParts_singleton {s : String} (hslash : '/' ∉ s.toList) (hempty : s ≠ "")
    (hpoint : s ≠ ".") : pathParts ⟨s⟩ = [s] := by
  have hsplit := Path.splitSlashes_of_not_slash hslash
  have hlist : s.toList ≠ ['.'] := fun h => hpoint (String.toList_inj.mp h)
  rw [Path.pathParts_eq, hsplit, Path.namesOf, List.filter_cons_of_pos (by simp [hempty, hlist])]
  simp

theorem pathParts_foldl_join (root : Path) : ∀ {names : List String},
    (∀ s ∈ names, (⟨s⟩ : Path).isAbsolute = false) →
      pathParts (names.foldl Path.join root) =
        pathParts root ++ names.flatMap fun s => pathParts ⟨s⟩
  | [], _ => (List.append_nil _).symm
  | s :: names, h => by
    rw [List.forall_mem_cons] at h
    rw [List.foldl_cons, pathParts_foldl_join _ h.2, Path.pathParts_join root h.1,
      List.flatMap_cons, List.append_assoc]

/-- The path of a name under another one ends with the name. -/
theorem suffix_join (p : Path) {s : String} (h : (⟨s⟩ : Path).isAbsolute = false) :
    s.toList <:+ (p.join s).text.toList := by
  rw [Path.join, Path.push, h, if_neg (by simp)]
  split
  · rw [String.toList_append]
    exact List.suffix_append _ _
  · rw [String.toList_append]
    exact List.suffix_append _ _

theorem endsAsDirectory_of_suffix {p : Path} (h : ".java".toList <:+ p.text.toList) :
    endsAsDirectory p = false := by
  have hnot (tail : String) (hlen : tail.toList.length ≤ ".java".toList.length)
      (htail : ¬tail.toList <:+ ".java".toList) : p.text.endsWith tail = false := by
    rw [Bool.eq_false_iff]
    intro hends
    exact htail (List.suffix_of_suffix_length_le (Path.endsWith_iff.mp hends) h hlen)
  rw [endsAsDirectory, hnot "/" (by decide) (by decide), hnot "/." (by decide) (by decide)]
  rfl

/-- **A test goes to a file in directories for its package.** -/
theorem destination_filePath (root : Path) {package testClass : String}
    (hclass : '/' ∉ testClass.toList) (hpackage : RelativePackage package) :
    ∃ q, FilePath (destination root package testClass) q (testClass ++ ".java") ∧
      pathParts q = pathParts root ++ packageParts package := by
  have hslash : '/' ∉ (testClass ++ ".java").toList := by
    rw [String.toList_append, List.mem_append, not_or]
    exact ⟨hclass, by decide⟩
  have hpoint : '.' ∈ (testClass ++ ".java").toList := by
    rw [String.toList_append]
    exact List.mem_append_right _ (by decide)
  have hjava : ".java".toList <:+ (testClass ++ ".java").toList := by
    rw [String.toList_append]
    exact List.suffix_append _ _
  have hlong : 5 ≤ (testClass ++ ".java").toList.length := hjava.length_le
  have hshort (s : String) (hs : s.toList.length < 5) : testClass ++ ".java" ≠ s := by
    intro he
    rw [he] at hlong
    omega
  have hrelative := Path.not_isAbsolute hslash
  have hparts : pathParts (destination root package testClass) =
      (pathParts root ++ packageParts package) ++ [testClass ++ ".java"] := by
    rw [destination, Path.pathParts_join _ hrelative, pathParts_foldl_join root hpackage,
      pathParts_singleton hslash (hshort "" (by decide)) (hshort "." (by decide))]
    rfl
  obtain ⟨q, part, hq⟩ := Path.exists_isParent (p := destination root package testClass)
    (by rw [hparts]; simp)
  obtain ⟨hdirs, hname⟩ := List.append_inj' (hq.parts.symm.trans hparts) rfl
  obtain rfl : part = testClass ++ ".java" := by simpa using hname
  refine ⟨q, ⟨hq, hshort ".." (by decide), ?_⟩, hdirs⟩
  exact endsAsDirectory_of_suffix (hjava.trans (suffix_join _ hrelative))

theorem isName_of_mem {cs : List Path.Component} (h : Path.Regular cs) {s : String}
    (hs : .name s ∈ cs) : Path.IsName s := by
  have of_isPart (hpart : (Path.Component.name s).IsPart) : Path.IsName s := by
    obtain hup | ⟨s', hs', hname⟩ := hpart
    · cases hup
    · rwa [Path.Component.name.inj hs']
  cases cs with
  | nil => cases hs
  | cons c cs =>
    rcases List.mem_cons.mp hs with rfl | hs
    · obtain hroot | hhere | hpart := h.1 _ rfl
      · cases hroot
      · cases hhere
      · exact of_isPart hpart
    · exact of_isPart (h.2 _ hs)

theorem stem_sublist (name : String) : (Path.stem name).toList.Sublist name.toList := by
  rw [Path.stem]
  split
  · exact List.Sublist.refl _
  · rw [String.toList_ofList, ← List.reverse_sublist, List.reverse_reverse]
    exact (List.drop_sublist _ _).trans (List.dropWhile_sublist _)

namespace Project

theorem not_slash_className (file : Path) : '/' ∉ (className file).toList := by
  rw [className]
  cases hname : file.fileName? with
  | none => simp
  | some name =>
    have hslash : '/' ∉ name.toList := by
      rw [Path.fileName?] at hname
      split at hname
      · rename_i s hlast
        obtain rfl := Option.some.inj hname
        exact (isName_of_mem (Path.components_regular file) (List.mem_of_getLast? hlast)).2
      · cases hname
    exact fun h => hslash ((stem_sublist name).subset h)

theorem not_slash_testClass {p : Project} (h : '/' ∉ p.config.project.testSuffix.toList)
    (file : Path) : '/' ∉ (p.testClass file).toList := by
  rw [testClass, String.toList_append, List.mem_append, not_or]
  exact ⟨not_slash_className file, h⟩

end Project

/-! ### Places on the way of others -/

theorem spell_append_down (ms : List String) {ns : List String} (h : ∀ s ∈ ns, s ≠ "..") :
    spell (ms ++ ns) = spell ms ++ ns := by
  induction ns using List.reverseRecOn with
  | nil => rw [List.append_nil, List.append_nil]
  | append_singleton ks part ih =>
    rw [← List.append_assoc, spell_concat, turn_name _ (h part (by simp)),
      ih fun s hs => h s (List.mem_append_left _ hs), List.append_assoc]

theorem noWayBack_append {t : FileTree} {ms ns : List String} (h : NoWayBack t ms)
    (hdown : ∀ s ∈ ns, s ≠ "..") : NoWayBack t (ms ++ ns) := by
  rintro ks ⟨rest, hrest⟩
  rcases List.append_eq_append_iff.mp hrest with ⟨as, hms, -⟩ | ⟨as, hks, hns⟩
  · exact h ks ⟨as, hms.symm⟩
  · rcases List.eq_nil_or_concat as with rfl | ⟨bs, b, rfl⟩
    · rw [List.append_nil] at hks
      exact h ks ⟨[], by rw [List.append_nil, hks]⟩
    · rw [List.concat_eq_append, ← List.append_assoc] at hks
      obtain ⟨-, hb⟩ := List.append_inj' hks rfl
      obtain rfl : ".." = b := by simpa using hb
      exact absurd rfl (hdown ".." (by rw [hns]; simp))

theorem noWayBack_of_down {t : FileTree} {parts : List String} (h : ∀ s ∈ parts, s ≠ "..") :
    NoWayBack t parts := by
  have hnil : NoWayBack t [] := fun ms hms => by simp at hms
  exact noWayBack_append hnil h

/-- A path under the test root: a file `name` in the directories `dirs`, as for a test. -/
structure TestPlace (p : Project) (path q : Path) (dirs : List String) (name : String) : Prop where
  file : FilePath path q name
  parts : pathParts q = pathParts p.testRoot ++ dirs
  dirs : ∀ s ∈ dirs, '.' ∉ s.toList
  name : '.' ∈ name.toList

namespace TestPlace

variable {p : Project} {t : FileTree} {path q path' q' : Path} {dirs dirs' : List String}
  {name name' : String}

theorem down (h : TestPlace p path q dirs name) : ∀ s ∈ dirs, s ≠ ".." :=
  fun s hs => ne_up_of_not_point (h.dirs s hs)

theorem noWayBack (h : TestPlace p path q dirs name)
    (hback : NoWayBack t (pathParts p.testRoot)) : NoWayBack t (pathParts q) := by
  rw [h.parts]
  exact noWayBack_append hback h.down

theorem spelled_eq (h : TestPlace p path q dirs name) :
    spelled path = spelled p.testRoot ++ (dirs ++ [name]) := by
  rw [h.file.spelled_eq, spelled, h.parts, spell_append_down _ h.down, List.append_assoc]
  rfl

/-- **No test goes to where a directory on the way of another is made.** From where nothing is the
way only leads down, and no directory below the test root has a name like that of a test. -/
theorem apart (h : TestPlace p path q dirs name) (h' : TestPlace p path' q' dirs' name')
    (ht : t.WellFormed) (hback : NoWayBack t (pathParts p.testRoot)) {ms : List String}
    (hms : ms <+: pathParts q') (hplace : spell ms = spelled path) :
    t.node? (spelled path) ≠ none := by
  intro hnone
  obtain ⟨ns, hns⟩ := hms
  have hback' := h'.noWayBack hback
  rw [← hns] at hback'
  rw [← hplace] at hnone
  have hway := spell_of_missing ht hnone ns hback'
  rw [hns, h'.parts, spell_append_down _ h'.down, hplace, h.spelled_eq, List.append_assoc] at hway
  have hdirs : dirs' = dirs ++ [name] ++ ns := List.append_cancel_left hway
  refine h'.dirs name ?_ h.name
  rw [hdirs]
  simp

end TestPlace

namespace Project

/-- The test of a file has such a place. -/
theorem exists_testPlace {p : Project} (hsuffix : '/' ∉ p.config.project.testSuffix.toList)
    (file : Path) {facts : SourceFacts} (hpackage : RelativePackage facts.package) :
    ∃ q dirs name, TestPlace p (p.testPath file facts) q dirs name := by
  obtain ⟨q, hfile, hparts⟩ :=
    destination_filePath p.testRoot (not_slash_testClass hsuffix file) hpackage
  refine ⟨q, _, _, hfile, hparts, fun s hs => not_point_of_mem_packageParts hs, ?_⟩
  rw [String.toList_append]
  exact List.mem_append_right _ (by decide)

end Project

end Testsmith
