/-
# Patterns below a root

What is looked for below a root is a pattern for absolute paths: the root, as a text, and then the
pattern. Its components are those of the root, each for one name, and those of the pattern
(`components_of_parse?`). So a path that is found has the components of the root, and then those of
the names that the pattern leads by (`exists_names_of_mem_matchesBelow`). Unless a component of the
pattern stands for a point, its text after the root is what is displayed of it.

Key definitions: `belowText`, `ProperNames`, `Unpointed`.
Key theorems: `isAbsolute_of_mem_matchesBelow`, `exists_names_of_mem_matchesBelow`,
`relativeText_of_mem_matchesBelow`.
-/
import Testsmith.Discovery
import Testsmith.Proofs.Files.Relative
import Testsmith.Proofs.Glob.Walk

namespace Testsmith.Glob

open Testsmith.Path

/-! ### The text of a pattern below a root -/

/-- The text without the slashes at its end. -/
def dropSlashes (cs : List Char) : List Char := (cs.reverse.dropWhile (· == '/')).reverse

/-- The pattern for absolute paths, in a text. -/
def belowText (root : Path) (pattern : String) : String :=
  String.ofList (dropSlashes (escape root.text).toList) ++ "/" ++ pattern

theorem matchesBelow_eq (t : FileTree) (root : Path) (pattern : String) :
    matchesBelow t root pattern =
      ((PathPattern.parse? (belowText root pattern)).map (·.expand t)).getD [] := rfl

theorem dropSlashes_concat_slash (cs : List Char) : dropSlashes (cs ++ ['/']) = dropSlashes cs := by
  rw [dropSlashes, List.reverse_concat, List.dropWhile_cons_of_pos (by rfl), dropSlashes]

theorem dropSlashes_concat {c : Char} (hc : c ≠ '/') (cs : List Char) :
    dropSlashes (cs ++ [c]) = cs ++ [c] := by
  rw [dropSlashes, List.reverse_concat, List.dropWhile_cons_of_neg (by simpa using hc),
    List.reverse_cons, List.reverse_reverse]

theorem exists_concat_escapedChars {c : Char} (hc : c ≠ '/') :
    ∃ front d, escapedChars c = front ++ [d] ∧ d ≠ '/' := by
  by_cases h : IsSpecial c
  · exact ⟨['[', c], ']', by rw [escapedChars, if_pos h]; rfl, by decide⟩
  · exact ⟨[], c, by rw [escapedChars, if_neg h]; rfl, hc⟩

theorem dropSlashes_escaped (cs : List Char) :
    dropSlashes (cs.flatMap escapedChars) = (dropSlashes cs).flatMap escapedChars := by
  induction cs using List.reverseRecOn with
  | nil => rfl
  | append_singleton cs c ih =>
    rw [List.flatMap_append, List.flatMap_singleton]
    by_cases hc : c = '/'
    · rw [hc, show escapedChars '/' = ['/'] from rfl, dropSlashes_concat_slash, ih,
        dropSlashes_concat_slash]
    · obtain ⟨front, d, hd, hne⟩ := exists_concat_escapedChars hc
      rw [dropSlashes_concat hc, List.flatMap_append, List.flatMap_singleton, hd,
        ← List.append_assoc, dropSlashes_concat hne]

theorem toList_belowText (root : Path) (pattern : String) : (belowText root pattern).toList =
    (dropSlashes root.text.toList).flatMap escapedChars ++ '/' :: pattern.toList := by
  rw [belowText, String.toList_append, String.toList_append, String.toList_ofList, toList_escape,
    dropSlashes_escaped, List.append_assoc]
  rfl

/-- No part that says something is dropped. -/
theorem filterMap_dropSlashes (cs : List Char) :
    (splitSlashes (dropSlashes cs)).filterMap component? =
      (splitSlashes cs).filterMap component? := by
  induction cs using List.reverseRecOn with
  | nil => rfl
  | append_singleton cs c ih =>
    by_cases hc : c = '/'
    · rw [hc, dropSlashes_concat_slash, ih, splitSlashes_append, List.filterMap_append]
      exact (List.append_nil _).symm
    · rw [dropSlashes_concat hc]

theorem dropSlashes_cases (cs : List Char) :
    dropSlashes ('/' :: cs) = [] ∨ ∃ rest, dropSlashes ('/' :: cs) = '/' :: rest := by
  have hprefix : dropSlashes ('/' :: cs) <+: '/' :: cs := by
    have h := List.dropWhile_suffix (l := ('/' :: cs).reverse) (· == '/')
    rwa [← List.reverse_prefix, List.reverse_reverse] at h
  rcases List.prefix_cons_iff.mp hprefix with h | ⟨rest, h, -⟩
  · exact Or.inl h
  · exact Or.inr ⟨rest, h⟩

theorem splitSlashes_append_of_not_slash {cs : List Char} (h : '/' ∉ cs) (ds : List Char) :
    splitSlashes (cs ++ ds) = (splitSlashes ds).modifyHead (cs ++ ·) := by
  induction cs with
  | nil =>
    rw [List.nil_append]
    cases splitSlashes ds <;> rfl
  | cons c cs ih =>
    rw [List.mem_cons, not_or] at h
    rw [List.cons_append, splitSlashes.eq_3 _ _ (by simpa using Ne.symm h.1), ih h.2]
    cases hs : splitSlashes ds with
    | nil => exact absurd hs (splitSlashes_ne_nil ds)
    | cons s parts => rfl

/-- The parts of an escaped text are the parts, escaped. -/
theorem splitSlashes_escaped (cs : List Char) : splitSlashes (cs.flatMap escapedChars) =
    (splitSlashes cs).map (·.flatMap escapedChars) := by
  induction cs with
  | nil => rfl
  | cons c cs ih =>
    rw [List.flatMap_cons]
    by_cases hc : c = '/'
    · rw [hc, show escapedChars '/' = ['/'] from rfl, List.singleton_append, splitSlashes.eq_2,
        splitSlashes.eq_2, ih, List.map_cons]
      rfl
    · have hslash : '/' ∉ escapedChars c := by
        rw [escapedChars]
        split <;> simp [Ne.symm hc]
      rw [splitSlashes_append_of_not_slash hslash, ih, splitSlashes.eq_3 _ _ (by simpa using hc)]
      cases hs : splitSlashes cs with
      | nil => exact absurd hs (splitSlashes_ne_nil cs)
      | cons s parts =>
        rw [List.map_cons, List.modifyHead_cons, List.map_cons, List.flatMap_cons]

theorem splitTerminated_append (cs ds : List Char) :
    splitTerminated (cs ++ '/' :: ds) = splitSlashes cs ++ splitTerminated ds := by
  obtain ⟨front, s, hs⟩ := (List.eq_nil_or_concat' _).resolve_left (splitSlashes_ne_nil ds)
  rw [splitTerminated, splitTerminated, splitSlashes_append, hs, ← List.append_assoc]
  by_cases hempty : s = []
  · simp [hempty]
  · simp [hempty]

theorem splitTerminated_subset (cs : List Char) : splitTerminated cs ⊆ splitSlashes cs := by
  rw [splitTerminated]
  split
  · exact List.dropLast_subset _
  · exact List.Subset.refl _

/-! ### The components of a pattern below a root -/

/-- The component in a part of a text. -/
def parsePart? (part : List Char) : Option Pattern := (Pattern.parse (String.ofList part)).toOption

/-- The component that matches a name alone. -/
def escapedPattern (part : List Char) : Pattern := ⟨part.map escapedToken⟩

theorem mapM_of_parse? {text : String} {rest : List Char} {pattern : PathPattern}
    (htext : text.toList = '/' :: rest) (h : PathPattern.parse? text = some pattern) :
    (if rest.isEmpty then [[]] else splitTerminated rest).mapM parsePart? =
      some pattern.components := by
  have hslash : text.startsWith "/" = true := String.startsWith_string_iff.mpr ⟨rest, htext.symm⟩
  rw [PathPattern.parse?, hslash, if_pos rfl, htext] at h
  obtain ⟨-, -, h⟩ := Option.bind_eq_some_iff.mp h
  obtain ⟨components, hcomponents, h⟩ := Option.bind_eq_some_iff.mp h
  rw [← Option.some.inj h]
  exact hcomponents

theorem mapM_escaped : ∀ parts : List (List Char),
    (parts.map (·.flatMap escapedChars)).mapM parsePart? = some (parts.map escapedPattern)
  | [] => rfl
  | s :: parts => by
    have hescape : String.ofList (s.flatMap escapedChars) = escape (String.ofList s) := by
      rw [← String.toList_inj, toList_escape, String.toList_ofList, String.toList_ofList]
    have hparse : parsePart? (s.flatMap escapedChars) = some (escapedPattern s) := by
      rw [parsePart?, hescape, parse_escape, String.toList_ofList]
      rfl
    rw [List.map_cons, List.mapM_cons, hparse, mapM_escaped parts]
    rfl

theorem exists_of_mem_mapM : ∀ {parts : List (List Char)} {ps : List Pattern},
    parts.mapM parsePart? = some ps → ∀ {p : Pattern}, p ∈ ps → ∃ s ∈ parts, p ∈ parsePart? s
  | [], ps, h, p, hp => by
    rw [← Option.some.inj h] at hp
    exact absurd hp List.not_mem_nil
  | s :: parts, ps, h, p, hp => by
    rw [List.mapM_cons] at h
    obtain ⟨first, hfirst, h⟩ := Option.bind_eq_some_iff.mp h
    obtain ⟨rest, hrest, h⟩ := Option.bind_eq_some_iff.mp h
    rw [← Option.some.inj h] at hp
    rcases List.mem_cons.mp hp with rfl | hp
    · exact ⟨s, List.mem_cons_self, hfirst⟩
    · obtain ⟨s', hs', hparse⟩ := exists_of_mem_mapM hrest hp
      exact ⟨s', List.mem_cons_of_mem _ hs', hparse⟩

/-- **The components of the root come first**, each for its name alone, and then those of the
pattern. -/
theorem components_of_parse? {root : Path} (hroot : root.isAbsolute = true) {text : String}
    {pattern : PathPattern} (h : PathPattern.parse? (belowText root text) = some pattern) :
    ∃ (parts : List (List Char)) (ps : List Pattern),
      pattern.components = parts.map escapedPattern ++ ps ∧
      root.components = .root :: parts.filterMap component? ∧ (∀ s ∈ parts, '/' ∉ s) ∧
      ∀ p ∈ ps, ∃ s ∈ splitSlashes text.toList, p ∈ parsePart? s := by
  obtain ⟨rest, hrest⟩ := exists_toList_of_absolute hroot
  have hcomponents := components_of_absolute hroot
  rw [filterMap_splitTerminated, ← filterMap_dropSlashes] at hcomponents
  have hbelow := toList_belowText root text
  rw [hrest] at hbelow hcomponents
  rcases dropSlashes_cases rest with hdrop | ⟨base, hdrop⟩
  · rw [hdrop, List.flatMap_nil, List.nil_append] at hbelow
    refine ⟨[], pattern.components, rfl, ?_, by simp, fun p hp => ?_⟩
    · rw [hcomponents, hdrop]
      rfl
    · obtain ⟨s, hs, hparse⟩ := exists_of_mem_mapM (mapM_of_parse? hbelow h) hp
      refine ⟨s, ?_, hparse⟩
      split at hs
      · rename_i hempty
        rw [List.isEmpty_iff.mp hempty]
        exact hs
      · exact splitTerminated_subset _ hs
  · rw [hdrop, List.flatMap_cons, show escapedChars '/' = ['/'] from rfl, List.append_assoc,
      List.singleton_append] at hbelow
    have hmap := mapM_of_parse? hbelow h
    rw [if_neg (by simp), splitTerminated_append, splitSlashes_escaped, List.mapM_append,
      mapM_escaped] at hmap
    obtain ⟨_, hfirst, hmap⟩ := Option.bind_eq_some_iff.mp hmap
    obtain rfl := Option.some.inj hfirst
    obtain ⟨ps, hps, hsome⟩ := Option.bind_eq_some_iff.mp hmap
    refine ⟨splitSlashes base, ps, (Option.some.inj hsome).symm, ?_,
      fun s => not_slash_of_mem_splitSlashes, fun p hp => ?_⟩
    · rw [hcomponents, hdrop, splitSlashes.eq_2, List.filterMap_cons_none rfl]
    · obtain ⟨s, hs, hparse⟩ := exists_of_mem_mapM hps hp
      exact ⟨s, splitTerminated_subset _ hs, hparse⟩

/-! ### Paths that are found -/

theorem exists_expand_of_mem_matchesBelow {t : FileTree} {root q : Path} {text : String}
    (h : q ∈ matchesBelow t root text) :
    ∃ pattern, PathPattern.parse? (belowText root text) = some pattern ∧ q ∈ pattern.expand t := by
  rw [matchesBelow_eq] at h
  cases hparse : PathPattern.parse? (belowText root text) with
  | none =>
    rw [hparse] at h
    exact absurd h List.not_mem_nil
  | some pattern =>
    rw [hparse] at h
    exact ⟨pattern, rfl, h⟩

theorem isAbsolute_top : (⟨"/"⟩ : Path).isAbsolute = true := isAbsolute_iff.mpr ⟨[], rfl⟩

/-- **A path that is found is absolute.** -/
theorem isAbsolute_of_mem_matchesBelow {t : FileTree} {root q : Path} {text : String}
    (h : q ∈ matchesBelow t root text) : q.isAbsolute = true := by
  obtain ⟨pattern, -, hq⟩ := exists_expand_of_mem_matchesBelow h
  obtain ⟨names, -, rfl⟩ := exists_leads_of_mem_expand hq
  exact isAbsolute_foldl_join names isAbsolute_top

/-- The names of all entries are names. -/
def ProperNames (t : FileTree) : Prop := ∀ e ∈ t.entries, ∀ s ∈ e.1, IsName s

instance (t : FileTree) : Decidable (ProperNames t) :=
  inferInstanceAs (Decidable (∀ e ∈ t.entries, ∀ s ∈ e.1, _ ∧ _))

/-- No component of the pattern stands for a point, as `.` does, or `.*`. -/
def Unpointed (pattern : String) : Prop :=
  ∀ s ∈ splitSlashes pattern.toList, ∀ p ∈ parsePart? s,
    p.tokens.head? = some (.char '.') → p.isMatch "." = false

instance (pattern : String) : Decidable (Unpointed pattern) :=
  inferInstanceAs (Decidable (∀ s ∈ splitSlashes pattern.toList, ∀ p ∈ parsePart? s, _ → _))

section
variable {t : FileTree} {p : Pattern} {name : String}

theorem ProperNames.isName (ht : ProperNames t) (h : IsEntry t name) : IsName name := by
  obtain ⟨e, he, hlast⟩ := h
  exact ht e he name (List.mem_of_getLast? hlast)

theorem Fits.isMatch (ht : ProperNames t) (h : Fits t p name) : p.isMatch name = true := by
  cases h with
  | entry there isMatch => exact isMatch (ht.isName there)
  | literal stands => exact isMatch_of_literal? stands
  | pointed _ _ isMatch => exact isMatch

/-- Whatever a component leads to, it is an entry, or nowhere, or upwards, or stands there. -/
theorem Fits.cases_name (ht : ProperNames t) (h : Fits t p name) :
    IsName name ∨ p.literal? = some name ∨
      p.tokens.head? = some (.char '.') ∧ (name = "." ∨ name = "..") := by
  cases h with
  | entry there _ => exact Or.inl (ht.isName there)
  | literal stands => exact Or.inr (Or.inl stands)
  | pointed head points _ => exact Or.inr (Or.inr ⟨head, points⟩)

/-- What leads nowhere begins with a point and matches one. -/
theorem Fits.of_point (ht : ProperNames t) (h : Fits t p ".") :
    p.tokens.head? = some (.char '.') ∧ p.isMatch "." = true := by
  refine ⟨?_, h.isMatch ht⟩
  rcases h.cases_name ht with hname | hliteral | ⟨hhead, -⟩
  · exact absurd hname.1 (by decide)
  · rw [tokens_of_literal? hliteral]
    rfl
  · exact hhead

/-- A part of a path leads by names without slashes. -/
theorem Fits.not_slash (ht : ProperNames t) (h : Fits t p name) {part : List Char}
    (hpart : '/' ∉ part) (hp : p ∈ parsePart? part) : '/' ∉ name.toList := by
  rcases h.cases_name ht with hname | hliteral | ⟨-, rfl | rfl⟩
  · exact hname.2
  · intro hslash
    have htoken : Token.char '/' ∈ p.tokens := by
      rw [tokens_of_literal? hliteral]
      exact List.mem_map_of_mem hslash
    rw [Option.mem_def, parsePart?] at hp
    cases hparse : Pattern.parse (String.ofList part) with
    | error e =>
      rw [hparse] at hp
      cases hp
    | ok p' =>
      rw [hparse] at hp
      obtain rfl := Option.some.inj hp
      have hmem := mem_of_parse hparse htoken
      rw [String.toList_ofList] at hmem
      exact hpart hmem
  · decide
  · decide

theorem isComponents_escapedPattern (part : List Char) :
    (escapedPattern part).isComponents = false := by
  rw [Pattern.isComponents, Bool.eq_false_iff]
  intro h
  obtain ⟨c, -, hc⟩ := List.mem_map.mp (List.contains_iff_mem.mp h)
  rw [escapedToken] at hc
  split at hc <;> cases hc

/-- The components of the root lead by its names. -/
theorem names_of_escaped (ht : ProperNames t) : ∀ {parts : List (List Char)} {names : List String},
    List.Forall₂ (Fits t) (parts.map escapedPattern) names → names = parts.map String.ofList
  | [], _, h => by
    cases h
    rfl
  | s :: parts, _, h => by
    obtain _ | ⟨hfits, hrest⟩ := h
    have hmatch := hfits.isMatch ht
    rw [escapedPattern, ← String.toList_ofList (l := s), isMatch_escape] at hmatch
    rw [List.map_cons, ← names_of_escaped ht hrest, hmatch]

end

/-- The parts that stand in a text because of some names say the same without the empty ones. -/
theorem filterMap_filter_ne (names : List String) :
    ((names.filter (· ≠ "")).map String.toList).filterMap component? =
      (names.map String.toList).filterMap component? := by
  induction names with
  | nil => rfl
  | cons s names ih =>
    by_cases hs : s = ""
    · rw [hs, List.filter_cons_of_neg (by simp), List.map_cons, List.filterMap_cons_none rfl, ih]
    · rw [List.filter_cons_of_pos (by simpa using hs), List.map_cons, List.map_cons,
        List.filterMap_cons, List.filterMap_cons, ih]

theorem isSome_component? {s : List Char} (hne : s ≠ []) (hpoint : s ≠ ['.']) :
    (component? s).isSome = true := by
  rw [component?_eq, if_neg (by simp [hne, hpoint])]
  split <;> rfl

/-- **Where a pattern leads below a root**: by the names of the root, and then by entries and names
for its components. -/
theorem exists_names_of_mem_matchesBelow {t : FileTree} (ht : ProperNames t) {root q : Path}
    (hroot : root.isAbsolute = true) {text : String} (h : q ∈ matchesBelow t root text) :
    ∃ (front back : List String), q = (front ++ back).foldl join ⟨"/"⟩ ∧
      (∀ s ∈ front, '/' ∉ s.toList) ∧
      root.components = .root :: (front.map String.toList).filterMap component? ∧
      ∀ s ∈ back, IsEntry t s ∨
        ∃ part ∈ splitSlashes text.toList, ∃ p ∈ parsePart? part, Fits t p s := by
  obtain ⟨pattern, hparse, hq⟩ := exists_expand_of_mem_matchesBelow h
  obtain ⟨names, hleads, rfl⟩ := exists_leads_of_mem_expand hq
  obtain ⟨parts, ps, hcomponents, hbase, hslash, hps⟩ := components_of_parse? hroot hparse
  rw [hcomponents] at hleads
  have hnames : ∀ p ∈ parts.map escapedPattern, p.isComponents = false := by
    intro p hp
    obtain ⟨part, -, rfl⟩ := List.mem_map.mp hp
    exact isComponents_escapedPattern part
  obtain ⟨front, back, rfl, hfront, hback⟩ := hleads.append hnames
  obtain rfl := names_of_escaped ht hfront
  refine ⟨_, back, rfl, ?_, ?_, fun s hs => (hback.mem hs).imp_right ?_⟩
  · intro s hs
    obtain ⟨part, hpart, rfl⟩ := List.mem_map.mp hs
    rw [String.toList_ofList]
    exact hslash part hpart
  · rw [map_toList_ofList, hbase]
  · rintro ⟨p, hp, hfits⟩
    obtain ⟨part, hpart, hread⟩ := hps p hp
    exact ⟨part, hpart, p, hread, hfits⟩

/-- **What is left of a path after the root is what is displayed of it**, if no component of the
pattern stands for a point. -/
theorem relativeText_of_mem_matchesBelow {t : FileTree} (ht : ProperNames t) {root q : Path}
    (hroot : root.isAbsolute = true) {text : String} (htext : Unpointed text)
    (h : q ∈ matchesBelow t root text) : q.relativeText root = q.displayRelative root := by
  obtain ⟨front, back, rfl, hfront, hcomponents, hback⟩ :=
    exists_names_of_mem_matchesBelow ht hroot h
  have hslash : ∀ s ∈ front ++ back, '/' ∉ s.toList := by
    refine List.forall_mem_append.mpr ⟨hfront, fun s hs => ?_⟩
    rcases hback s hs with hentry | ⟨part, hpart, p, hp, hfits⟩
    · exact (ht.isName hentry).2
    · exact hfits.not_slash ht (not_slash_of_mem_splitSlashes hpart) hp
  have hpoint : ∀ s ∈ back, s ≠ "." := by
    rintro s hs rfl
    rcases hback _ hs with hentry | ⟨part, hpart, p, hp, hfits⟩
    · exact absurd (ht.isName hentry).1 (by decide)
    · obtain ⟨hhead, hmatch⟩ := hfits.of_point ht
      rw [htext part hpart p hp hhead] at hmatch
      cases hmatch
  have hparts := splitTerminated_foldl_join isAbsolute_top hslash
  rw [List.filter_append, List.map_append, ← List.append_assoc] at hparts
  refine relativeText_eq_displayRelative hparts ?_ ?_
  · rw [components_of_absolute (isAbsolute_foldl_join _ isAbsolute_top), hparts, hcomponents,
      List.filterMap_append, List.filterMap_append, filterMap_filter_ne front]
    rfl
  · intro s hs
    obtain ⟨name, hname, rfl⟩ := List.mem_map.mp hs
    obtain ⟨hmem, hne⟩ := List.mem_filter.mp hname
    refine isSome_component? (by simpa using hne) fun hlist => hpoint name hmem ?_
    exact String.toList_inj.mp hlist

end Testsmith.Glob
