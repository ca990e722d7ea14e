/-
# Components and parts

A path is followed by its parts, and taken apart by its components; the parts are what the components
say (`pathParts_eq_filterMap`). The components of every path are regular: the root and the point
only stand first, and names hold no slash (`components_regular`). A list of regular components is
that of the path it makes (`components_ofComponents`), so that the parent of a path has all parts but
the last (`exists_isParent`).

Key definitions: `Component.part?`, `Regular`.
Key theorems: `pathParts_eq_filterMap`, `components_ofComponents`, `exists_isParent`,
`pathParts_join`, `components_join`.
-/
import Testsmith.Proofs.Files.Paths

namespace Testsmith
namespace Path

/-- The part that a component is followed by. -/
def Component.part? : Component → Option String
  | .root | .here => none
  | .up => some ".."
  | .name s => some s

/-- The component leads upwards or to a name. -/
def Component.IsPart (c : Component) : Prop := c = .up ∨ ∃ s, c = .name s ∧ IsName s

/-- Only the first component may be the root or a point, and names are names. -/
def Regular (cs : List Component) : Prop :=
  (∀ c ∈ cs.head?, c = .root ∨ c = .here ∨ c.IsPart) ∧ ∀ c ∈ cs.tail, c.IsPart

/-! ### What the parts between slashes say -/

theorem component?_eq (s : List Char) : component? s =
    if s.isEmpty || s == ['.'] then none
    else if s = ['.', '.'] then some .up else some (.name (String.ofList s)) := by
  unfold component?
  split
  · rfl
  · rfl
  · rfl
  · rename_i h1 h2 h3
    rw [if_neg, if_neg]
    · exact fun h => h3 h
    · simp only [Bool.or_eq_true, List.isEmpty_iff, beq_iff_eq, not_or]
      exact ⟨h1, h2⟩

theorem filterMap_part?_component? (parts : List (List Char)) :
    (parts.filterMap component?).filterMap Component.part? = namesOf parts := by
  induction parts with
  | nil => rfl
  | cons s parts ih =>
    rw [namesOf] at ih ⊢
    have hs := component?_eq s
    by_cases hskip : (s.isEmpty || s == ['.']) = true
    · rw [if_pos hskip] at hs
      rw [List.filterMap_cons_none hs, ih, List.filter_cons_of_neg (by simp [hskip])]
    · rw [if_neg hskip] at hs
      rw [List.filter_cons_of_pos (by simpa using hskip), List.map_cons, ← ih]
      by_cases hup : s = ['.', '.']
      · rw [if_pos hup] at hs
        rw [List.filterMap_cons_some hs, hup]
        rfl
      · rw [if_neg hup] at hs
        rw [List.filterMap_cons_some hs]
        rfl

/-- The parts of a path are those of its components. -/
theorem pathParts_eq_filterMap (p : Path) :
    FileTree.pathParts p = p.components.filterMap Component.part? := by
  rw [pathParts_eq, components, componentsList]
  split
  · rename_i parts hs
    rw [hs, List.filterMap_cons_none rfl, filterMap_part?_component?]
    rfl
  · rename_i parts hs
    rw [hs, List.filterMap_cons_none rfl, filterMap_part?_component?]
    rfl
  · rw [filterMap_part?_component?]

theorem isPart_of_component? {s : List Char} {c : Component} (hslash : '/' ∉ s)
    (h : component? s = some c) : c.IsPart := by
  rw [component?_eq] at h
  split at h
  · cases h
  · split at h
    · exact Or.inl (Option.some.inj h).symm
    · rename_i hskip hup
      refine Or.inr ⟨_, (Option.some.inj h).symm, ?_, ?_⟩
      · rw [String.toList_ofList, component?_eq, if_neg hskip, if_neg hup]
      · rwa [String.toList_ofList]

theorem regular_of_forall {cs : List Component} (h : ∀ c ∈ cs, c.IsPart) : Regular cs :=
  ⟨fun c hc => Or.inr (Or.inr (h c (List.mem_of_mem_head? hc))),
    fun c hc => h c (List.mem_of_mem_tail hc)⟩

theorem components_regular (p : Path) : Regular p.components := by
  have hpart {parts : List (List Char)} (hparts : parts ⊆ splitSlashes p.text.toList) :
      ∀ c ∈ parts.filterMap component?, c.IsPart := by
    intro c hc
    obtain ⟨s, hs, hsc⟩ := List.mem_filterMap.mp hc
    exact isPart_of_component? (not_slash_of_mem_splitSlashes (hparts hs)) hsc
  rw [components, componentsList]
  split
  · rename_i parts hs
    exact ⟨by simp, hpart (by rw [hs]; exact List.subset_cons_self _ _)⟩
  · rename_i parts hs
    exact ⟨by simp, hpart (by rw [hs]; exact List.subset_cons_self _ _)⟩
  · exact regular_of_forall (hpart (List.Subset.refl _))

theorem Regular.dropLast {cs : List Component} (h : Regular cs) : Regular cs.dropLast := by
  cases cs with
  | nil => exact h
  | cons c cs =>
    cases cs with
    | nil => exact ⟨by simp, by simp⟩
    | cons d cs =>
      refine ⟨h.1, fun e he => h.2 e ?_⟩
      rw [List.dropLast_cons_cons, List.tail_cons] at he
      exact List.dropLast_subset _ he

/-! ### The path of components -/

theorem Component.IsPart.text {c : Component} (h : c.IsPart) :
    component? c.text.toList = some c ∧ '/' ∉ c.text.toList := by
  obtain rfl | ⟨s, rfl, hs⟩ := h
  · exact ⟨by decide, by decide⟩
  · exact hs

theorem filterMap_component?_text {cs : List Component} (h : ∀ c ∈ cs, c.IsPart) :
    (cs.map (·.text.toList)).filterMap component? = cs := by
  induction cs with
  | nil => rfl
  | cons c cs ih =>
    rw [List.forall_mem_cons] at h
    rw [List.map_cons, List.filterMap_cons_some h.1.text.1, ih h.2]

theorem toList_intercalate_text (cs : List Component) :
    ("/".intercalate (cs.map Component.text)).toList =
      ['/'].intercalate (cs.map (·.text.toList)) := by
  simp [Function.comp_def]

theorem splitSlashes_intercalate_text (cs : List Component) (hne : cs ≠ [])
    (h : ∀ c ∈ cs, '/' ∉ c.text.toList) :
    splitSlashes ("/".intercalate (cs.map Component.text)).toList = cs.map (·.text.toList) := by
  rw [toList_intercalate_text]
  refine splitSlashes_intercalate (by simpa using hne) fun s hs => ?_
  obtain ⟨c, hc, rfl⟩ := List.mem_map.mp hs
  exact h c hc

/-- **Regular components are those of the path they make.** -/
theorem components_ofComponents {cs : List Component} (h : Regular cs) :
    (ofComponents cs).components = cs := by
  cases cs with
  | nil => rfl
  | cons c cs =>
    obtain ⟨hhead, htail⟩ := h
    rw [List.tail_cons] at htail
    have hslash : ∀ d ∈ cs, '/' ∉ d.text.toList := fun d hd => (htail d hd).text.2
    rw [components, componentsList]
    obtain rfl | rfl | hpart := hhead c rfl
    · rw [ofComponents, String.toList_append]
      by_cases hcs : cs = []
      · subst hcs
        rfl
      · have hsplit := splitSlashes_intercalate_text cs hcs hslash
        simp only [show "/".toList = ['/'] from rfl, List.singleton_append, splitSlashes.eq_2,
          hsplit]
        obtain ⟨d, cs', rfl⟩ := List.exists_cons_of_ne_nil hcs
        exact congrArg _ (filterMap_component?_text htail)
    · have hsplit := splitSlashes_intercalate_text (.here :: cs) (by simp)
        (List.forall_mem_cons.mpr ⟨by decide, hslash⟩)
      rw [ofComponents.eq_2 _ (by simp), hsplit]
      exact congrArg _ (filterMap_component?_text htail)
    · have hall := List.forall_mem_cons.mpr ⟨hpart, htail⟩
      have hsplit := splitSlashes_intercalate_text (c :: cs) (by simp)
        (List.forall_mem_cons.mpr ⟨hpart.text.2, hslash⟩)
      have hmute : ∀ s, (s.isEmpty || s == ['.']) = true → c.text.toList ≠ s := by
        intro s hs he
        have hc := hpart.text.1
        rw [he, component?_eq, if_pos hs] at hc
        cases hc
      have hroot : ∀ rest, c :: cs = .root :: rest → False := by
        intro rest he
        rw [(List.cons.inj he).1] at hpart
        obtain hup | ⟨s, hname, -⟩ := hpart
        · cases hup
        · cases hname
      rw [ofComponents.eq_2 _ hroot, hsplit]
      split
      · rename_i he
        exact absurd (List.cons.inj he).1 (hmute [] rfl)
      · rename_i he
        exact absurd (List.cons.inj he).1 (hmute ['.'] rfl)
      · exact filterMap_component?_text hall

/-! ### The path above -/

/-- One path is the other without its last part. -/
structure IsParent (q p : Path) (part : String) : Prop where
  parent : p.parent? = some q
  /-- The parent is spelled as plainly as its components allow. -/
  plain : ofComponents q.components = q
  components : p.components.length = q.components.length + 1
  parts : FileTree.pathParts p = FileTree.pathParts q ++ [part]
  text : ofComponents p.components = p → q.text.toList.Sublist p.text.toList

theorem ofComponents_dropLast_sublist (cs : List Component) :
    (ofComponents cs.dropLast).text.toList.Sublist (ofComponents cs).text.toList := by
  have hsub (ms : List Component) : ("/".intercalate (ms.dropLast.map Component.text)).toList.Sublist
      ("/".intercalate (ms.map Component.text)).toList := by
    rw [toList_intercalate_text, toList_intercalate_text]
    exact intercalate_sublist ((List.dropLast_sublist ms).map _)
  match cs with
  | [] => exact List.Sublist.refl _
  | [c] => exact List.nil_sublist _
  | c :: d :: cs =>
    rw [List.dropLast_cons_cons]
    by_cases hc : c = .root
    · subst hc
      rw [ofComponents, ofComponents, String.toList_append, String.toList_append]
      exact (List.Sublist.refl _).append (hsub (d :: cs))
    · have hroot (ms : List Component) : ∀ rest, c :: ms = .root :: rest → False :=
        fun rest he => hc (List.cons.inj he).1
      rw [ofComponents.eq_2 _ (hroot _), ofComponents.eq_2 _ (hroot _)]
      exact hsub (c :: d :: cs)

/-- A path that leads on from the top is that of a parent with one part more. -/
theorem exists_isParent {p : Path} (h : FileTree.pathParts p ≠ []) :
    ∃ q part, IsParent q p part := by
  have hregular := components_regular p
  rw [pathParts_eq_filterMap] at h
  rcases List.eq_nil_or_concat p.components with hnil | ⟨init, c, hinit⟩
  · rw [hnil] at h
    exact absurd rfl h
  rw [List.concat_eq_append] at hinit
  -- the last component is a part: it is below another one, or the only one
  have hpart : ∃ part, c.part? = some part ∧ c ≠ .root := by
    rw [hinit] at h hregular
    cases init with
    | nil =>
      cases c with
      | root => exact absurd rfl h
      | here => exact absurd rfl h
      | up => exact ⟨"..", rfl, by simp⟩
      | name s => exact ⟨s, rfl, by simp⟩
    | cons d init =>
      obtain rfl | ⟨s, rfl, -⟩ := hregular.2 c (by simp)
      · exact ⟨"..", rfl, by simp⟩
      · exact ⟨s, rfl, by simp⟩
  obtain ⟨part, hpart, hroot⟩ := hpart
  have hdrop : p.components.dropLast = init := by rw [hinit, List.dropLast_concat]
  have hq : (ofComponents init).components = init := by
    rw [← hdrop]
    exact components_ofComponents hregular.dropLast
  refine ⟨ofComponents init, part, ?_, ?_, ?_, ?_, fun hplain => ?_⟩
  · rw [parent?, hinit, List.getLast?_concat, List.dropLast_concat]
    cases c with
    | root => exact absurd rfl hroot
    | here => rfl
    | up => rfl
    | name s => rfl
  · rw [hq]
  · rw [hq, hinit, List.length_append, List.length_singleton]
  · rw [pathParts_eq_filterMap, pathParts_eq_filterMap, hq, hinit, List.filterMap_append,
      List.filterMap_cons_some hpart]
    rfl
  · rw [← hdrop, ← hplain]
    simpa only [hplain] using ofComponents_dropLast_sublist p.components

/-! ### Names under a path -/

theorem endsWith_iff {s tail : String} : s.endsWith tail = true ↔ tail.toList <:+ s.toList := by
  rw [String.endsWith_eq_endsWith_toSlice, String.Slice.endsWith_string_iff, String.copy_toSlice]

theorem splitSlashes_append (cs ds : List Char) :
    splitSlashes (cs ++ '/' :: ds) = splitSlashes cs ++ splitSlashes ds := by
  induction cs with
  | nil => rfl
  | cons c cs ih =>
    by_cases hc : c = '/'
    · rw [hc, List.cons_append, splitSlashes.eq_2, splitSlashes.eq_2, ih]
      rfl
    · rw [List.cons_append, splitSlashes.eq_3 _ _ (by simpa using hc), ih,
        splitSlashes.eq_3 _ _ (by simpa using hc)]
      cases hs : splitSlashes cs with
      | nil =>
        rw [splitSlashes_eq_splitOn] at hs
        exact absurd hs (List.splitOn_ne_nil _ _)
      | cons s ss => rfl

theorem namesOf_append (parts more : List (List Char)) :
    namesOf (parts ++ more) = namesOf parts ++ namesOf more := by
  rw [namesOf, List.filter_append, List.map_append]
  rfl

/-- A path under another one has the parts of both. -/
theorem pathParts_join (p : Path) {s : String} (h : (⟨s⟩ : Path).isAbsolute = false) :
    FileTree.pathParts (p.join s) = FileTree.pathParts p ++ FileTree.pathParts ⟨s⟩ := by
  rw [join, push, h, if_neg (by simp)]
  simp only [pathParts_eq]
  by_cases hempty : p.text.isEmpty = true
  · have htext : p.text = "" := by simpa using hempty
    simp only [htext, String.empty_append]
    rfl
  by_cases hends : p.text.endsWith "/" = true
  · obtain ⟨cs, hcs⟩ := endsWith_iff.mp hends
    have htext : p.text.toList = cs ++ ['/'] := hcs.symm
    simp only [hends, Bool.or_true, if_true, String.toList_append, htext, List.append_assoc,
      List.singleton_append, splitSlashes_append, namesOf_append]
    simp [namesOf, splitSlashes]
  · simp only [hempty, hends, Bool.or_self, Bool.false_eq_true, if_false, String.toList_append,
      List.append_assoc]
    rw [show "/".toList = ['/'] from rfl, List.singleton_append, splitSlashes_append, namesOf_append]

theorem splitSlashes_ne_nil (cs : List Char) : splitSlashes cs ≠ [] := by
  rw [splitSlashes_eq_splitOn]
  exact List.splitOn_ne_nil _ _

/-- The components of a text that says something first are those of its parts. -/
theorem componentsList_of_parts {cs s : List Char} {parts : List (List Char)}
    (h : splitSlashes cs = s :: parts) (hempty : s ≠ []) (hpoint : s ≠ ['.']) :
    componentsList cs = (s :: parts).filterMap component? := by
  rw [componentsList, h]
  split
  · rename_i he
    exact absurd (List.cons.inj he).1 hempty
  · rename_i he
    exact absurd (List.cons.inj he).1 hpoint
  · rfl

theorem componentsList_append {cs : List Char} (hne : cs ≠ []) (ds : List Char) :
    componentsList (cs ++ '/' :: ds) =
      componentsList cs ++ (splitSlashes ds).filterMap component? := by
  have hsplit := splitSlashes_append cs ds
  obtain ⟨s, parts, hs⟩ := List.exists_cons_of_ne_nil (splitSlashes_ne_nil cs)
  obtain ⟨d, more, hd⟩ := List.exists_cons_of_ne_nil (splitSlashes_ne_nil ds)
  rw [hs, hd] at hsplit
  rw [hd]
  have happend (parts : List (List Char)) : (parts ++ d :: more).filterMap component? =
      parts.filterMap component? ++ (d :: more).filterMap component? := List.filterMap_append
  by_cases hempty : s = []
  · subst hempty
    cases parts with
    | nil =>
      have hback := intercalate_splitSlashes cs
      rw [hs] at hback
      exact absurd hback.symm hne
    | cons s parts =>
      rw [componentsList, componentsList, hsplit, hs]
      exact congrArg (Component.root :: ·) (happend (s :: parts))
  by_cases hpoint : s = ['.']
  · subst hpoint
    rw [componentsList, componentsList, hsplit, hs]
    exact congrArg (Component.here :: ·) (happend parts)
  rw [componentsList_of_parts hsplit hempty hpoint, componentsList_of_parts hs hempty hpoint]
  exact happend (s :: parts)

theorem splitSlashes_of_not_slash {cs : List Char} (h : '/' ∉ cs) : splitSlashes cs = [cs] := by
  have hone : splitSlashes (['/'].intercalate [cs]) = [cs] :=
    splitSlashes_intercalate (by simp) (by simpa using h)
  rwa [List.intercalate_singleton] at hone

theorem isAbsolute_iff {p : Path} : p.isAbsolute = true ↔ ['/'] <+: p.text.toList :=
  String.startsWith_string_iff

theorem not_isAbsolute {s : String} (h : '/' ∉ s.toList) : (⟨s⟩ : Path).isAbsolute = false := by
  rw [Bool.eq_false_iff]
  intro habsolute
  exact h ((isAbsolute_iff.mp habsolute).subset (by simp))

/-- A name under a path is one component more. -/
theorem components_join (p : Path) {s : String} (h : IsName s) :
    (p.join s).components = p.components ++ [.name s] := by
  have hsplit := splitSlashes_of_not_slash h.2
  have hname : [s.toList].filterMap component? = [.name s] := by
    rw [List.filterMap_cons_some h.1]
    rfl
  rw [join, push, not_isAbsolute h.2, if_neg (by simp), components, components]
  by_cases hempty : p.text.isEmpty = true
  · have htext : p.text = "" := by simpa using hempty
    have hnone : s.toList ≠ [] := by
      intro hnil
      have hskip := h.1
      rw [hnil] at hskip
      cases hskip
    have hpoint : s.toList ≠ ['.'] := by
      intro hpoint
      have hskip := h.1
      rw [hpoint] at hskip
      cases hskip
    simp only [htext, String.empty_append]
    exact (componentsList_of_parts hsplit hnone hpoint).trans hname
  have hne : p.text.toList ≠ [] := by simpa using hempty
  by_cases hends : p.text.endsWith "/" = true
  · obtain ⟨cs, hcs⟩ := endsWith_iff.mp hends
    have htext : p.text.toList = cs ++ ['/'] := hcs.symm
    simp only [hends, Bool.or_true, if_true, String.toList_append, htext, List.append_assoc,
      List.singleton_append]
    by_cases hroot : cs = []
    · subst hroot
      rw [componentsList, List.nil_append, List.nil_append, splitSlashes.eq_2, hsplit]
      exact congrArg _ hname
    · rw [componentsList_append hroot, componentsList_append hroot, hsplit, hname]
      exact congrArg (· ++ [Component.name s]) (List.append_nil _).symm
  · simp only [hempty, hends, Bool.or_self, Bool.false_eq_true, if_false, String.toList_append,
      List.append_assoc]
    rw [show "/".toList = ['/'] from rfl, List.singleton_append, componentsList_append hne, hsplit,
      hname]

end Path
end Testsmith
