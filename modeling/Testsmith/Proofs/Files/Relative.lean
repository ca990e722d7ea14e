/-
# Paths relative to a root

A path is put together of names by joining them: between the slashes of its text these stand one
after another (`splitTerminated_foldl_join`), the ones that say nothing included. What is left of the
text after a root is what is displayed of the path, as long as everything that stands there says
something (`relativeText_eq_displayRelative`); a point between two slashes says nothing.

Key theorems: `splitTerminated_foldl_join`, `components_of_absolute`,
`relativeText_eq_displayRelative`, `displayRelative_inj`.
-/
import Testsmith.Glob.Walk
import Testsmith.Proofs.Files.Parts

namespace Testsmith
namespace Path

open Glob

/-! ### Parts at the end of a text -/

theorem splitTerminated_concat_slash (cs : List Char) :
    splitTerminated (cs ++ ['/']) = splitSlashes cs := by
  rw [splitTerminated, splitSlashes_append, show splitSlashes [] = [[]] from rfl]
  simp

theorem exists_splitSlashes_concat {c : Char} (hc : c ≠ '/') : ∀ cs : List Char,
    ∃ front s, splitSlashes (cs ++ [c]) = front ++ [s ++ [c]]
  | [] => ⟨[], [], by rw [List.nil_append, splitSlashes.eq_3 _ _ (by simpa using hc)]; rfl⟩
  | d :: cs => by
    obtain ⟨front, s, hs⟩ := exists_splitSlashes_concat hc cs
    rw [List.cons_append]
    by_cases hd : d = '/'
    · rw [hd, splitSlashes.eq_2, hs]
      exact ⟨[] :: front, s, rfl⟩
    · rw [splitSlashes.eq_3 _ _ (by simpa using hd), hs]
      cases front with
      | nil => exact ⟨[], d :: s, rfl⟩
      | cons f front => exact ⟨(d :: f) :: front, s, rfl⟩

theorem splitTerminated_concat {c : Char} (hc : c ≠ '/') (cs : List Char) :
    splitTerminated (cs ++ [c]) = splitSlashes (cs ++ [c]) := by
  obtain ⟨front, s, hs⟩ := exists_splitSlashes_concat hc cs
  rw [splitTerminated, hs]
  simp

/-- Nothing that says something is left out. -/
theorem filterMap_splitTerminated (cs : List Char) :
    (splitTerminated cs).filterMap component? = (splitSlashes cs).filterMap component? := by
  rcases List.eq_nil_or_concat cs with rfl | ⟨front, c, rfl⟩
  · rfl
  rw [List.concat_eq_append]
  by_cases hc : c = '/'
  · rw [hc, splitTerminated_concat_slash, splitSlashes_append, List.filterMap_append]
    exact (List.append_nil _).symm
  · rw [splitTerminated_concat hc]

/-! ### Joined names -/

variable {p : Path}

theorem isAbsolute_join (hp : p.isAbsolute = true) (s : String) :
    (p.join s).isAbsolute = true := by
  rw [join, push]
  cases hs : (⟨s⟩ : Path).isAbsolute with
  | true => rw [if_pos rfl, hs]
  | false =>
    rw [if_neg (by simp)]
    rw [isAbsolute_iff] at hp
    split
    · rw [isAbsolute_iff, String.toList_append]
      exact hp.trans (List.prefix_append _ _)
    · rw [isAbsolute_iff, String.toList_append, String.toList_append, List.append_assoc]
      exact hp.trans (List.prefix_append _ _)

theorem isAbsolute_foldl_join : ∀ (names : List String) {p : Path}, p.isAbsolute = true →
    (names.foldl join p).isAbsolute = true
  | [], _, hp => hp
  | s :: names, _, hp => isAbsolute_foldl_join names (isAbsolute_join hp s)

theorem exists_toList_of_absolute (hp : p.isAbsolute = true) :
    ∃ rest, p.text.toList = '/' :: rest := by
  obtain ⟨rest, hrest⟩ := isAbsolute_iff.mp hp
  exact ⟨rest, hrest.symm⟩

/-- An absolute path is the root and what its text says. -/
theorem components_of_absolute (hp : p.isAbsolute = true) :
    p.components = .root :: (splitTerminated p.text.toList).filterMap component? := by
  obtain ⟨rest, hrest⟩ := exists_toList_of_absolute hp
  rw [filterMap_splitTerminated, components, componentsList, hrest, splitSlashes.eq_2]
  cases hs : splitSlashes rest with
  | nil => exact absurd hs (splitSlashes_ne_nil rest)
  | cons s parts => rfl

theorem splitSlashes_join (hp : p.isAbsolute = true) {s : String} (hs : '/' ∉ s.toList) :
    splitSlashes (p.join s).text.toList = splitTerminated p.text.toList ++ [s.toList] := by
  have hsplit := splitSlashes_of_not_slash hs
  obtain ⟨rest, hrest⟩ := exists_toList_of_absolute hp
  have hempty : p.text.isEmpty = false := by
    rw [Bool.eq_false_iff]
    intro h
    have htext : p.text = "" := by simpa using h
    rw [htext] at hrest
    cases hrest
  rw [join, push, not_isAbsolute hs, if_neg (by simp), hempty, Bool.false_or]
  by_cases hends : p.text.endsWith "/" = true
  · obtain ⟨cs, hcs⟩ := endsWith_iff.mp hends
    have htext : p.text.toList = cs ++ ['/'] := hcs.symm
    rw [if_pos hends, String.toList_append, htext, List.append_assoc, List.singleton_append,
      splitSlashes_append, splitTerminated_concat_slash, hsplit]
  · rw [if_neg hends, String.toList_append, String.toList_append, List.append_assoc,
      show "/".toList = ['/'] from rfl, List.singleton_append, splitSlashes_append, hsplit]
    rcases List.eq_nil_or_concat p.text.toList with hnil | ⟨front, c, hconcat⟩
    · rw [hnil] at hrest
      cases hrest
    · rw [List.concat_eq_append] at hconcat
      have hc : c ≠ '/' := by
        rintro rfl
        exact hends (endsWith_iff.mpr ⟨front, hconcat.symm⟩)
      rw [hconcat, splitTerminated_concat hc]

theorem splitTerminated_join (hp : p.isAbsolute = true) {s : String} (hs : '/' ∉ s.toList) :
    splitTerminated (p.join s).text.toList =
      splitTerminated p.text.toList ++ if s = "" then [] else [s.toList] := by
  rw [splitTerminated, splitSlashes_join hp hs]
  by_cases hempty : s = ""
  · rw [if_pos hempty, hempty]
    simp
  · rw [if_neg hempty]
    simp [hempty]

/-- **Between the slashes of a path of joined names stand these names.** -/
theorem splitTerminated_foldl_join : ∀ {names : List String} {p : Path}, p.isAbsolute = true →
    (∀ s ∈ names, '/' ∉ s.toList) →
      splitTerminated (names.foldl join p).text.toList =
        splitTerminated p.text.toList ++ (names.filter (· ≠ "")).map String.toList
  | [], p, _, _ => by simp
  | s :: names, p, hp, h => by
    rw [List.forall_mem_cons] at h
    rw [List.foldl_cons, splitTerminated_foldl_join (isAbsolute_join hp s) h.2,
      splitTerminated_join hp h.1]
    by_cases hempty : s = ""
    · simp [hempty]
    · simp [hempty]

/-! ### What comes after a root -/

variable {root : Path}

theorem stripBase?_append {rest : List Component} (h : p.components = root.components ++ rest) :
    stripBase? root p = some rest := by
  rw [stripBase?, h]
  generalize root.components = bs
  induction bs with
  | nil => rfl
  | cons b bs ih => rw [List.cons_append, stripBase?.go, if_pos rfl, ih]

theorem components_of_stripBase? {rest : List Component} (h : stripBase? root p = some rest) :
    p.components = root.components ++ rest := by
  rw [stripBase?] at h
  generalize root.components = bs at h ⊢
  generalize p.components = cs at h ⊢
  induction bs generalizing cs with
  | nil => exact Option.some.inj h
  | cons b bs ih =>
    cases cs with
    | nil => cases h
    | cons c cs =>
      rw [stripBase?.go] at h
      split at h
      · rename_i hbc
        rw [ih _ h, hbc, List.cons_append]
      · cases h

/-- Where each part says something, there are as many at the end as components. -/
theorem lastParts_of_says : ∀ {back : List (List Char)} (front : List (List Char)),
    (∀ s ∈ back, (component? s).isSome = true) → lastParts back.length (back ++ front) = back
  | [], front, _ => by rw [List.length_nil, lastParts]
  | s :: back, front, h => by
    rw [List.forall_mem_cons] at h
    have hs : ¬(component? s).isNone = true := by simpa [Option.isSome_iff_ne_none] using h.1
    rw [List.length_cons, List.cons_append, lastParts, if_neg hs, lastParts_of_says front h.2]

/-- Then nothing is dropped before them. -/
theorem lastParts_dropWhile {back : List (List Char)} (front : List (List Char))
    (h : ∀ s ∈ back, (component? s).isSome = true) :
    lastParts back.length ((back ++ front).dropWhile fun s => (component? s).isNone) = back := by
  cases back with
  | nil => rw [List.length_nil, lastParts]
  | cons s back =>
    have hs : ¬(component? s).isNone = true := by
      simpa [Option.isSome_iff_ne_none] using h s List.mem_cons_self
    rw [List.cons_append, List.dropWhile_cons, if_neg hs, ← List.cons_append, lastParts_of_says _ h]

/-- Read backwards, what is left out says nothing. -/
theorem dropWhile_reverse_splitTerminated (cs : List Char) :
    (splitSlashes cs).reverse.dropWhile (fun s => (component? s).isNone) =
      (splitTerminated cs).reverse.dropWhile (fun s => (component? s).isNone) := by
  rcases List.eq_nil_or_concat cs with rfl | ⟨front, c, rfl⟩
  · rfl
  rw [List.concat_eq_append]
  by_cases hc : c = '/'
  · rw [hc, splitTerminated_concat_slash, splitSlashes_append, List.reverse_append,
      show splitSlashes [] = [[]] from rfl, List.reverse_singleton, List.singleton_append,
      List.dropWhile_cons_of_pos (by rfl)]
  · rw [splitTerminated_concat hc]

theorem text_of_component? {s : List Char} {c : Component} (h : component? s = some c) :
    c.text.toList = s := by
  rw [component?_eq] at h
  split at h
  · cases h
  · split at h
    · rename_i hup
      rw [← Option.some.inj h, hup]
      decide
    · rw [← Option.some.inj h]
      exact String.toList_ofList

theorem map_text_filterMap : ∀ {parts : List (List Char)},
    (∀ s ∈ parts, (component? s).isSome = true) →
      (parts.filterMap component?).map (·.text.toList) = parts
  | [], _ => rfl
  | s :: parts, h => by
    rw [List.forall_mem_cons] at h
    obtain ⟨c, hc⟩ := Option.isSome_iff_exists.mp h.1
    rw [List.filterMap_cons_some hc, List.map_cons, text_of_component? hc, map_text_filterMap h.2]

/-- **The text after a root is what is displayed**, if all that stands there says something. -/
theorem relativeText_eq_displayRelative {front back : List (List Char)}
    (htext : splitTerminated p.text.toList = front ++ back)
    (hcomponents : p.components = root.components ++ back.filterMap component?)
    (hback : ∀ s ∈ back, (component? s).isSome = true) :
    p.relativeText root = p.displayRelative root := by
  have hbase := stripBase?_append hcomponents
  have hdisplay : (p.displayRelative root).toList = ['/'].intercalate back := by
    rw [displayRelative, hbase, Option.getD_some, toList_intercalate_text, map_text_filterMap hback]
  have hlength : (back.filterMap component?).length = back.length := by
    rw [← congrArg List.length (map_text_filterMap hback), List.length_map]
  have hlast := lastParts_dropWhile front.reverse
    fun s hs => hback s (List.mem_reverse.mp hs)
  rw [List.length_reverse] at hlast
  rw [← String.toList_inj, hdisplay, relativeText, hbase]
  dsimp only
  rw [String.toList_ofList, dropWhile_reverse_splitTerminated, htext, List.reverse_append, hlength,
    hlast, List.reverse_reverse]

/-! ### What is displayed -/

/-- The components that are displayed of a path under a root. -/
def shown (root p : Path) : List Component := (stripBase? root p).getD p.components

/-- Only the first component may be the root. -/
def Rooted (cs : List Component) : Prop :=
  (∀ c ∈ cs, c.IsPart) ∨ ∃ rest, cs = .root :: rest ∧ ∀ c ∈ rest, c.IsPart

theorem not_isPart_root : ¬Component.root.IsPart := by
  rintro (h | ⟨s, h, -⟩)
  · cases h
  · cases h

theorem exists_components_of_absolute (hp : p.isAbsolute = true) :
    ∃ rest, p.components = .root :: rest ∧ ∀ c ∈ rest, c.IsPart := by
  have h := components_of_absolute hp
  have hregular := (components_regular p).2
  rw [h] at hregular
  exact ⟨_, h, hregular⟩

theorem rooted_shown (hp : p.isAbsolute = true) : Rooted (shown root p) := by
  obtain ⟨rest, hrest, hparts⟩ := exists_components_of_absolute hp
  rw [shown]
  cases hbase : stripBase? root p with
  | none => exact Or.inr ⟨rest, hrest, hparts⟩
  | some shown =>
    have hcomponents := components_of_stripBase? hbase
    rw [hrest] at hcomponents
    rcases List.cons_eq_append_iff.mp hcomponents with ⟨-, hall⟩ | ⟨bs, -, hpart⟩
    · exact Or.inr ⟨rest, hall, hparts⟩
    · exact Or.inl fun c hc => hparts c (by rw [hpart]; exact List.mem_append_right _ hc)

/-- Components between slashes read back. -/
theorem filterMap_splitSlashes_text {cs : List Component} (h : ∀ c ∈ cs, c.IsPart) :
    (splitSlashes ("/".intercalate (cs.map Component.text)).toList).filterMap component? = cs := by
  by_cases hne : cs = []
  · rw [hne]
    rfl
  · rw [splitSlashes_intercalate_text cs hne fun c hc => (h c hc).text.2, filterMap_component?_text h]

/-- Their text begins with no slash. -/
theorem not_slash_first {cs : List Component} (h : ∀ c ∈ cs, c.IsPart) :
    ¬['/'] <+: ("/".intercalate (cs.map Component.text)).toList := by
  rintro ⟨rest, hrest⟩
  cases cs with
  | nil => cases hrest
  | cons c cs =>
    have hsplit := splitSlashes_intercalate_text (c :: cs) (by simp) fun d hd => (h d hd).text.2
    rw [← hrest, List.singleton_append, splitSlashes.eq_2, List.map_cons] at hsplit
    have hsaid := (h c List.mem_cons_self).text.1
    rw [← (List.cons.inj hsplit).1] at hsaid
    cases hsaid

/-- The text of the root and of components after it. -/
theorem toList_rooted_text (rest : List Component) :
    ∃ cs, ("/".intercalate ((Component.root :: rest).map Component.text)).toList = '/' :: cs ∧
      (splitSlashes cs).filterMap component? =
        (splitSlashes ("/".intercalate (rest.map Component.text)).toList).filterMap component? := by
  cases rest with
  | nil => exact ⟨[], rfl, rfl⟩
  | cons c rest =>
    refine ⟨'/' :: ("/".intercalate ((c :: rest).map Component.text)).toList, ?_, ?_⟩
    · rw [toList_intercalate_text, toList_intercalate_text, List.map_cons, List.map_cons,
        List.intercalate_cons_cons]
      rfl
    · rw [splitSlashes.eq_2, List.filterMap_cons_none rfl]

/-- The root is in a list exactly if its text begins with a slash. -/
theorem Rooted.eq_of_text {cs : List Component} (h : Rooted cs) :
    cs = (if ['/'] <+: ("/".intercalate (cs.map Component.text)).toList
        then [Component.root] else []) ++
      (splitSlashes ("/".intercalate (cs.map Component.text)).toList).filterMap component? := by
  rcases h with h | ⟨rest, rfl, h⟩
  · rw [if_neg (not_slash_first h), filterMap_splitSlashes_text h, List.nil_append]
  · obtain ⟨cs, hcs, hparts⟩ := toList_rooted_text rest
    have hslash : ['/'] <+: '/' :: cs := ⟨cs, rfl⟩
    rw [hcs, if_pos hslash, splitSlashes.eq_2, List.filterMap_cons_none rfl,
      hparts, filterMap_splitSlashes_text h, List.singleton_append]

/-- If what is shown of a path has the root in it, it is all of the path. -/
theorem stripBase?_of_root {rest : List Component} (hp : p.isAbsolute = true)
    (h : stripBase? root p = some (.root :: rest)) : root.components = [] := by
  obtain ⟨ps, hps, hparts⟩ := exists_components_of_absolute hp
  have hcomponents := components_of_stripBase? h
  rw [hps] at hcomponents
  rcases List.cons_eq_append_iff.mp hcomponents with ⟨hnil, -⟩ | ⟨bs, -, hrest⟩
  · exact hnil
  · exact absurd (hparts .root (by simp [hrest])) not_isPart_root

/-- **Absolute paths that are displayed alike have the same components.** -/
theorem components_of_displayRelative {q : Path} (hp : p.isAbsolute = true)
    (hq : q.isAbsolute = true) (h : p.displayRelative root = q.displayRelative root) :
    p.components = q.components := by
  have hshown : shown root p = shown root q := by
    have hp' : Rooted (shown root p) := rooted_shown hp
    have hq' : Rooted (shown root q) := rooted_shown hq
    have htext : "/".intercalate ((shown root p).map Component.text) =
        "/".intercalate ((shown root q).map Component.text) := h
    rw [hp'.eq_of_text, htext, ← hq'.eq_of_text]
  -- where one of the two is shown as a whole, the other one is as well
  have whole {p q : Path} (hp : p.isAbsolute = true) (hq : q.isAbsolute = true)
      (hshown : shown root p = shown root q) (hnone : stripBase? root q = none) :
      stripBase? root p = none := by
    obtain ⟨qs, hqs, -⟩ := exists_components_of_absolute hq
    rw [shown, shown, hnone, Option.getD_none, hqs] at hshown
    cases hbase : stripBase? root p with
    | none => rfl
    | some rest =>
      rw [hbase, Option.getD_some] at hshown
      rw [hshown] at hbase
      have hnil := stripBase?_of_root hp hbase
      have hall : q.components = root.components ++ q.components := by rw [hnil, List.nil_append]
      rw [stripBase?_append hall] at hnone
      cases hnone
  cases hbase : stripBase? root p with
  | none =>
    have hbase' := whole hq hp hshown.symm hbase
    rwa [shown, shown, hbase, hbase'] at hshown
  | some rest =>
    cases hbase' : stripBase? root q with
    | none =>
      rw [whole hp hq hshown hbase'] at hbase
      cases hbase
    | some rest' =>
      rw [shown, shown, hbase, hbase', Option.getD_some, Option.getD_some] at hshown
      rw [components_of_stripBase? hbase, components_of_stripBase? hbase', hshown]

end Path
end Testsmith
