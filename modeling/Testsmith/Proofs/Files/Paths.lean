/-
# Plain paths

A path without points and double points (`Plain`) is names, and maybe a slash before them. The
directories on its way are the paths of the names it starts with (`ofNames`), the deepest first, and
none of them has a character that the path has not.

Key definitions: `IsName`, `Plain`, `ofNames`, `dirsOf`.
Key theorems: `Plain.shape`, `parent?_of_components`, `ancestorsWithin_ofNames`,
`utf8ByteSize_le_of_sublist`.
-/
import Mathlib.Data.List.Induction
import Testsmith.Staging

namespace Testsmith
namespace Path

/-- A text that stands for a name as a part of a path. -/
def IsName (s : String) : Prop := component? s.toList = some (.name s) ∧ '/' ∉ s.toList

/-- A path of names. -/
def Plain (p : Path) : Prop := ∀ c ∈ p.components, c ≠ .here ∧ c ≠ .up

instance (p : Path) : Decidable p.Plain :=
  inferInstanceAs (Decidable (∀ c ∈ p.components, c ≠ .here ∧ c ≠ .up))

/-- What an absolute path begins with. -/
def lead (absolute : Bool) : List Component := if absolute then [.root] else []

/-- The path of names, from the top or not. -/
def ofNames (absolute : Bool) (names : List String) : Path :=
  ⟨(if absolute then "/" else "") ++ "/".intercalate names⟩

/-- The parts that say something, as a path is followed. -/
def namesOf (parts : List (List Char)) : List String :=
  (parts.filter fun s => !(s.isEmpty || s == ['.'])).map String.ofList

theorem pathParts_eq (p : Path) : FileTree.pathParts p = namesOf (splitSlashes p.text.toList) := rfl

/-! ### Parts between slashes -/

theorem splitSlashes_eq_splitOn : ∀ cs : List Char, splitSlashes cs = cs.splitOn '/'
  | [] => rfl
  | c :: cs => by
    have ih := splitSlashes_eq_splitOn cs
    rw [List.splitOn_cons_eq_if_modifyHead, ← ih]
    by_cases hc : c = '/'
    · rw [hc]
      rfl
    · rw [if_neg (by simpa using hc), splitSlashes.eq_3 _ _ (by simpa using hc)]
      cases hs : splitSlashes cs with
      | nil => exact absurd (ih.symm.trans hs) (List.splitOn_ne_nil _ _)
      | cons s ss => rfl

theorem splitSlashes_intercalate {parts : List (List Char)} (hne : parts ≠ [])
    (h : ∀ s ∈ parts, '/' ∉ s) : splitSlashes (['/'].intercalate parts) = parts := by
  rw [splitSlashes_eq_splitOn, List.splitOn_intercalate _ h hne]

theorem intercalate_splitSlashes (cs : List Char) : ['/'].intercalate (splitSlashes cs) = cs := by
  rw [splitSlashes_eq_splitOn, List.intercalate_splitOn]

theorem not_slash_of_mem_splitSlashes : ∀ {cs s : List Char}, s ∈ splitSlashes cs → '/' ∉ s
  | [], s, h => by
    rw [List.mem_singleton.mp h]
    exact List.not_mem_nil
  | c :: cs, s, h => by
    by_cases hc : c = '/'
    · rw [hc, splitSlashes.eq_2, List.mem_cons] at h
      rcases h with rfl | h
      · exact List.not_mem_nil
      · exact not_slash_of_mem_splitSlashes h
    · rw [splitSlashes.eq_3 _ _ (by simpa using hc)] at h
      have ih {s : List Char} (hs : s ∈ splitSlashes cs) := not_slash_of_mem_splitSlashes hs
      split at h
      · rw [List.mem_singleton.mp h, List.mem_singleton]
        exact Ne.symm hc
      · rename_i s' ss hss
        rw [hss] at ih
        rcases List.mem_cons.mp h with rfl | h
        · rw [List.mem_cons, not_or]
          exact ⟨Ne.symm hc, ih List.mem_cons_self⟩
        · exact ih (List.mem_cons_of_mem _ h)

/-- Fewer parts have a shorter text. -/
theorem intercalate_sublist {sep : List Char} {ls ms : List (List Char)} (h : ls.Sublist ms) :
    (sep.intercalate ls).Sublist (sep.intercalate ms) := by
  induction h with
  | slnil => exact List.Sublist.refl _
  | cons m h ih =>
    rename_i ls ms
    refine ih.trans ?_
    by_cases hms : ms = []
    · rw [hms]
      exact List.nil_sublist _
    · rw [List.intercalate_cons_of_ne_nil hms]
      exact List.sublist_append_right _ _
  | cons_cons m h ih =>
    rename_i ls ms
    by_cases hls : ls = []
    · by_cases hms : ms = []
      · subst hls hms
        exact List.Sublist.refl _
      · rw [hls, List.intercalate_singleton, List.intercalate_cons_of_ne_nil hms, List.append_assoc]
        exact List.sublist_append_left _ _
    · have hms : ms ≠ [] := by
        rintro rfl
        exact hls (List.sublist_nil.mp h)
      rw [List.intercalate_cons_of_ne_nil hls, List.intercalate_cons_of_ne_nil hms]
      exact (List.Sublist.refl _).append ih

/-! ### Names -/

/-- A part that is not two points says nothing, or it is a name. -/
theorem component?_cases {s : List Char} (h : component? s ≠ some .up) :
    (component? s = none ∧ (s.isEmpty || s == ['.']) = true) ∨
      (component? s = some (.name (String.ofList s)) ∧ (s.isEmpty || s == ['.']) = false) := by
  unfold component? at h ⊢
  split at h
  · exact Or.inl ⟨rfl, rfl⟩
  · exact Or.inl ⟨rfl, rfl⟩
  · exact absurd rfl h
  · rename_i h1 h2 h3
    right
    refine ⟨by simp, ?_⟩
    rw [Bool.or_eq_false_iff]
    exact ⟨by simpa using h1, by simpa using h2⟩

theorem filterMap_component? : ∀ {parts : List (List Char)},
    .up ∉ parts.filterMap component? → parts.filterMap component? = (namesOf parts).map .name
  | [], _ => rfl
  | s :: parts, h => by
    have hs : component? s ≠ some .up := by
      intro hs
      exact h (List.mem_filterMap.mpr ⟨s, List.mem_cons_self, hs⟩)
    have hup : .up ∉ parts.filterMap component? := by
      intro hm
      obtain ⟨s', hs', he⟩ := List.mem_filterMap.mp hm
      exact h (List.mem_filterMap.mpr ⟨s', List.mem_cons_of_mem _ hs', he⟩)
    have ih := filterMap_component? hup
    rw [namesOf] at ih ⊢
    rcases component?_cases hs with ⟨hc, hb⟩ | ⟨hc, hb⟩
    · rw [List.filterMap_cons_none hc, ih, List.filter_cons_of_neg (by simp [hb])]
    · rw [List.filterMap_cons_some hc, ih, List.filter_cons_of_pos (by simp [hb])]
      rfl

theorem isName_of_mem_namesOf {parts : List (List Char)} {s : String}
    (hup : .up ∉ parts.filterMap component?)
    (hslash : ∀ s ∈ parts, '/' ∉ s) (h : s ∈ namesOf parts) : IsName s := by
  obtain ⟨cs, hm, rfl⟩ := List.mem_map.mp h
  obtain ⟨hm, hb⟩ := List.mem_filter.mp hm
  have hc : component? cs ≠ some .up := fun hc => hup (List.mem_filterMap.mpr ⟨cs, hm, hc⟩)
  rw [IsName, String.toList_ofList]
  rcases component?_cases hc with ⟨-, hb'⟩ | ⟨hc, -⟩
  · rw [hb'] at hb
    cases hb
  · exact ⟨hc, hslash cs hm⟩

/-- The texts of some parts read back. -/
theorem map_toList_ofList (parts : List (List Char)) :
    (parts.map String.ofList).map String.toList = parts := by
  have hid : String.toList ∘ String.ofList = id := funext fun s => String.toList_ofList
  rw [List.map_map, hid, List.map_id]

/-- Names with slashes between them are in the text of the parts they were taken from. -/
theorem intercalate_namesOf_sublist (parts : List (List Char)) :
    (['/'].intercalate ((namesOf parts).map String.toList)).Sublist (['/'].intercalate parts) := by
  rw [namesOf, map_toList_ofList]
  exact intercalate_sublist List.filter_sublist

theorem IsName.not_skipped {s : String} (h : IsName s) :
    (s.toList.isEmpty || s.toList == ['.']) = false := by
  rcases component?_cases (s := s.toList) (by rw [h.1]; simp) with ⟨hc, -⟩ | ⟨-, hb⟩
  · rw [h.1] at hc
    cases hc
  · exact hb

theorem namesOf_map_toList {names : List String} (h : ∀ s ∈ names, IsName s) :
    namesOf (names.map String.toList) = names := by
  induction names with
  | nil => rfl
  | cons s names ih =>
    rw [List.forall_mem_cons] at h
    have ih := ih h.2
    rw [namesOf] at ih ⊢
    rw [List.map_cons, List.filter_cons_of_pos (by simp [h.1.not_skipped]), List.map_cons, ih,
      String.ofList_toList]

theorem filterMap_map_toList {names : List String} (h : ∀ s ∈ names, IsName s) :
    (names.map String.toList).filterMap component? = names.map .name := by
  induction names with
  | nil => rfl
  | cons s names ih =>
    rw [List.forall_mem_cons] at h
    rw [List.map_cons, List.filterMap_cons_some h.1.1, ih h.2, List.map_cons]

/-! ### Paths of names -/

theorem toList_ofNames (absolute : Bool) (names : List String) :
    (ofNames absolute names).text.toList =
      (if absolute then ['/'] else []) ++ ['/'].intercalate (names.map String.toList) := by
  cases absolute <;> simp [ofNames]

theorem splitSlashes_ofNames {names : List String} (hne : names ≠ []) (h : ∀ s ∈ names, IsName s)
    (absolute : Bool) :
    splitSlashes (ofNames absolute names).text.toList =
      (if absolute then [[]] else []) ++ names.map String.toList := by
  have hslash : ∀ cs ∈ names.map String.toList, '/' ∉ cs := by
    intro cs hcs
    obtain ⟨s, hm, rfl⟩ := List.mem_map.mp hcs
    exact (h s hm).2
  have hs := splitSlashes_intercalate (by simpa using hne) hslash
  rw [toList_ofNames]
  cases absolute with
  | false => exact hs
  | true =>
    simp only [if_true, List.cons_append, List.nil_append, splitSlashes.eq_2, hs]

theorem pathParts_ofNames (absolute : Bool) {names : List String} (h : ∀ s ∈ names, IsName s) :
    FileTree.pathParts (ofNames absolute names) = names := by
  rw [pathParts_eq]
  by_cases hne : names = []
  · rw [hne]
    cases absolute <;> simp [ofNames, splitSlashes, namesOf]
  · rw [splitSlashes_ofNames hne h]
    have := namesOf_map_toList h
    cases absolute with
    | false => exact this
    | true => exact this

theorem components_ofNames (absolute : Bool) {names : List String} (h : ∀ s ∈ names, IsName s) :
    (ofNames absolute names).components = lead absolute ++ names.map .name := by
  rw [components, componentsList]
  by_cases hne : names = []
  · rw [hne]
    cases absolute <;> simp [ofNames, splitSlashes, component?, lead]
  · rw [splitSlashes_ofNames hne h]
    obtain ⟨s, names, rfl⟩ := List.exists_cons_of_ne_nil hne
    have hs := (h s List.mem_cons_self).not_skipped
    rw [Bool.or_eq_false_iff] at hs
    have hf := filterMap_map_toList h
    cases absolute with
    | true =>
      simp only [if_true, List.cons_append, List.nil_append, List.map_cons] at hf ⊢
      rw [hf]
      rfl
    | false =>
      simp only [Bool.false_eq_true, if_false, List.nil_append, List.map_cons] at hf ⊢
      split
      · rename_i heq
        rw [List.cons.injEq] at heq
        simp [heq.1] at hs
      · rename_i heq
        rw [List.cons.injEq] at heq
        simp [heq.1] at hs
      · rw [hf]
        rfl

/-- A plain path is its names, maybe with a slash before them, and spells them out. -/
theorem Plain.shape {p : Path} (h : p.Plain) :
    ∃ absolute, p.components = lead absolute ++ (FileTree.pathParts p).map .name ∧
      (∀ s ∈ FileTree.pathParts p, IsName s) ∧
      (ofNames absolute (FileTree.pathParts p)).text.toList.Sublist p.text.toList := by
  rw [pathParts_eq]
  have hslash : ∀ s ∈ splitSlashes p.text.toList, '/' ∉ s := fun s => not_slash_of_mem_splitSlashes
  have htext := intercalate_splitSlashes p.text.toList
  unfold Plain at h
  rw [components, componentsList] at h ⊢
  split at h
  · rename_i q parts hq
    rw [hq] at hslash htext ⊢
    have hup : .up ∉ (q :: parts).filterMap component? := fun hm =>
      (h _ (List.mem_cons_of_mem _ hm)).2 rfl
    have hnames : namesOf ([] :: q :: parts) = namesOf (q :: parts) := rfl
    refine ⟨true, ?_, fun s hs => ?_, ?_⟩
    · rw [hnames, filterMap_component? hup]
      rfl
    · exact isName_of_mem_namesOf hup (fun s hs => hslash s (List.mem_cons_of_mem _ hs)) hs
    · rw [← htext, toList_ofNames, hnames, List.intercalate_cons_of_ne_nil (by simp)]
      exact (intercalate_namesOf_sublist _).cons_cons _
  · rename_i parts hq
    exact absurd rfl (h .here List.mem_cons_self).1
  · rename_i h1 h2
    have hup : .up ∉ (splitSlashes p.text.toList).filterMap component? := fun hm => (h _ hm).2 rfl
    refine ⟨false, ?_, fun s hs => isName_of_mem_namesOf hup hslash hs, ?_⟩
    · rw [filterMap_component? hup]
      rfl
    · have hsub := intercalate_namesOf_sublist (splitSlashes p.text.toList)
      rw [htext] at hsub
      rw [toList_ofNames]
      exact hsub

theorem ofComponents_names (absolute : Bool) (names : List String) :
    ofComponents (lead absolute ++ names.map .name) = ofNames absolute names := by
  have hid : Component.text ∘ .name = id := rfl
  cases absolute with
  | true => simp [lead, ofComponents, ofNames, hid]
  | false => cases names <;> simp [lead, ofComponents, ofNames, hid, Component.text]

/-- The directory of a path of names is the path of all names but the last. -/
theorem parent?_of_components {p : Path} {absolute : Bool} {names : List String} {name : String}
    (h : p.components = lead absolute ++ (names ++ [name]).map .name) :
    p.parent? = some (ofNames absolute names) := by
  rw [List.map_append, List.map_singleton, ← List.append_assoc] at h
  rw [parent?, h, List.getLast?_concat, List.dropLast_concat, ofComponents_names]

theorem parent?_ofNames_concat (absolute : Bool) {names : List String} {name : String}
    (h : ∀ s ∈ names ++ [name], IsName s) :
    (ofNames absolute (names ++ [name])).parent? = some (ofNames absolute names) :=
  parent?_of_components (components_ofNames absolute h)

theorem parent?_ofNames_nil (absolute : Bool) : (ofNames absolute []).parent? = none := by
  rw [parent?, components_ofNames absolute (by simp)]
  cases absolute <;> rfl

/-- The directories on the way to a path of names and the path itself, the deepest first. -/
def dirsOf (absolute : Bool) (names : List String) : List Path :=
  ofNames absolute names ::
    if names.isEmpty then [] else dirsOf absolute names.dropLast
termination_by names.length
decreasing_by
  rename_i h
  rw [List.length_dropLast]
  have := List.length_pos_iff.mpr (by simpa using h)
  omega

theorem dirsOf_nil (absolute : Bool) : dirsOf absolute [] = [ofNames absolute []] := by
  rw [dirsOf]
  rfl

theorem dirsOf_concat (absolute : Bool) (names : List String) (name : String) :
    dirsOf absolute (names ++ [name]) =
      ofNames absolute (names ++ [name]) :: dirsOf absolute names := by
  rw [dirsOf, if_neg (by simp), List.dropLast_concat]

theorem mem_dirsOf {absolute : Bool} {names : List String} {p : Path}
    (h : p ∈ dirsOf absolute names) : ∃ ms, ms <+: names ∧ p = ofNames absolute ms := by
  induction names using List.reverseRecOn with
  | nil =>
    rw [dirsOf_nil, List.mem_singleton] at h
    exact ⟨[], List.prefix_refl _, h⟩
  | append_singleton ms name ih =>
    rw [dirsOf_concat, List.mem_cons] at h
    rcases h with rfl | h
    · exact ⟨_, List.prefix_refl _, rfl⟩
    · obtain ⟨ls, hls, rfl⟩ := ih h
      exact ⟨ls, hls.trans (List.prefix_append _ _), rfl⟩
theorem ancestorsWithin_ofNames (absolute : Bool) : ∀ (bound : Nat) (names : List String),
    (∀ s ∈ names, IsName s) → names.length ≤ bound →
      ofNames absolute names :: Staged.ancestorsWithin bound (ofNames absolute names) =
        dirsOf absolute names
  | 0, names, _, hb => by
    rw [List.eq_nil_of_length_eq_zero (Nat.le_zero.mp hb), dirsOf_nil]
    rfl
  | bound + 1, names, h, hb => by
    rw [Staged.ancestorsWithin]
    rcases List.eq_nil_or_concat names with rfl | ⟨init, name, rfl⟩
    · rw [parent?_ofNames_nil, dirsOf_nil]
    · rw [List.concat_eq_append] at h hb ⊢
      rw [parent?_ofNames_concat absolute h, dirsOf_concat,
        ← ancestorsWithin_ofNames absolute bound init (fun s hs => h s (List.mem_append_left _ hs))]
      rw [List.length_append, List.length_singleton] at hb
      omega

/-- The directories on the way to a plain path. -/
theorem ancestors_of_components {p : Path} {absolute : Bool} {names : List String} {name : String}
    (h : p.components = lead absolute ++ (names ++ [name]).map .name)
    (hn : ∀ s ∈ names, IsName s) : Staged.ancestors p = dirsOf absolute names := by
  have hlen : p.components.length = ((lead absolute).length + names.length) + 1 := by
    rw [h, List.length_append, List.length_map, List.length_append, List.length_singleton]
    omega
  rw [Staged.ancestors, hlen, Staged.ancestorsWithin, parent?_of_components h]
  exact ancestorsWithin_ofNames absolute _ names hn (by omega)

/-! ### Length of texts -/

theorem utf8ByteSize_le_of_sublist {cs ds : List Char} (h : cs.Sublist ds) :
    (String.ofList cs).utf8ByteSize ≤ (String.ofList ds).utf8ByteSize := by
  induction h with
  | slnil => exact Nat.le_refl _
  | cons d h ih =>
    rw [String.ofList_cons, String.utf8ByteSize_append]
    omega
  | cons_cons d h ih =>
    rw [String.ofList_cons, String.ofList_cons, String.utf8ByteSize_append,
      String.utf8ByteSize_append]
    omega

theorem ofNames_sublist (absolute : Bool) (names rest : List String) :
    (ofNames absolute names).text.toList.Sublist
      (ofNames absolute (names ++ rest)).text.toList := by
  rw [toList_ofNames, toList_ofNames, List.map_append]
  exact (List.Sublist.refl _).append (intercalate_sublist (List.sublist_append_left _ _))

end Path
end Testsmith
