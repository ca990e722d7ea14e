/-
# Resolving imports a second time

A test that was put together from resolved code reads back as what it was put together from: the
imports of its text are the imports it has, and its body is its body (`resolveImports_render`). The
imports of a text depend on its headers and its body alone. The headers of a rendered test are its
imports, one a line with its blanks normalized, so they declare just these; its body comes from code
without headers, so that none are found there; and what keywords and names in the body call for is
among the imports already.

Key theorems: `infix_stripFencesList`, `split_render`, `resolveImports_render`.
-/
import Testsmith.Artifact
import Testsmith.Proofs.Imports.Headers
import Testsmith.Proofs.Text.Words

namespace Testsmith

open Text

/-! ### Code without its fence -/

theorem afterFirstLine_suffix (cs : List Char) : afterFirstLine cs <:+ cs := by
  unfold afterFirstLine
  split
  · exact (List.drop_suffix _ _).trans (List.dropWhile_suffix _)
  · exact List.suffix_refl cs

/-- The code in a reply is a part of the reply. -/
theorem infix_stripFencesList (cs : List Char) : stripFencesList cs <:+: cs := by
  unfold stripFencesList
  split
  · exact infix_trimList cs
  · rename_i rest hrest
    have hr : rest <:+: cs := by
      refine List.IsInfix.trans ?_ (infix_trimList cs)
      rw [afterStart?_eq_some_iff.mp hrest]
      exact (List.suffix_append _ _).isInfix
    have hb : trimEndList (afterFirstLine rest) <:+: cs :=
      ((prefix_trimEndList _).isInfix.trans (afterFirstLine_suffix rest).isInfix).trans hr
    refine (infix_trimList _).trans (List.IsInfix.trans ?_ hb)
    cases he : beforeEnd? fence (trimEndList (afterFirstLine rest)) with
    | none => exact List.infix_refl _
    | some init =>
      rw [Option.getD_some, beforeEnd?_eq_some_iff.mp he]
      exact (List.prefix_append _ _).isInfix

/-- The code in a reply ends with no blank. -/
theorem not_blank_of_getLast?_stripFencesList {cs : List Char} {c : Char}
    (h : (stripFencesList cs).getLast? = some c) : isBlank c = false := by
  unfold stripFencesList at h
  split at h
  · exact not_blank_of_getLast?_trimList h
  · exact not_blank_of_getLast?_trimList h

/-- A text that does not start with a fence or a blank has none. -/
theorem stripFencesList_eq_trimList {c : Char} (cs : List Char) (hc : isBlank c = false)
    (hf : c ≠ '\x60') : stripFencesList (c :: cs) = trimList (c :: cs) := by
  have hstart : afterStart? fence (trimList (c :: cs)) = none := by
    have ht : trimList (c :: cs) <+: c :: cs := by
      rw [trimList, trimStartList_cons cs hc]
      exact prefix_trimEndList _
    rcases List.prefix_cons_iff.mp ht with h | ⟨t, h, -⟩
    · rw [h]
      rfl
    · rw [h]
      simp [fence, afterStart?, List.replicate, Ne.symm hf]
  rw [stripFencesList, hstart]

/-! ### Lines of a rendered test -/

/-- An import target as headers give it, with its blanks normalized. -/
def Normal (t : List Char) : Prop := normalizeBlanks t = t

theorem normal_of_not_blank {t : List Char} (h : ∀ c ∈ t, isBlank c = false) : Normal t :=
  normalizeBlanks_of_not_blank h

/-- The characters of a line that begins with a keyword and ends with a semicolon. -/
def headerLine (keyword rest : List Char) : List Char := keyword ++ (rest ++ [';'])

/-- The line that imports a target. -/
def importLine (t : List Char) : List Char := headerLine ['i', 'm', 'p', 'o', 'r', 't', ' '] t

/-- The line that states a package. -/
def packageLine (p : List Char) : List Char := headerLine ['p', 'a', 'c', 'k', 'a', 'g', 'e', ' '] p

theorem getLast?_headerLine (keyword rest : List Char) :
    (headerLine keyword rest).getLast? = some ';' := by
  rw [headerLine, ← List.append_assoc, List.getLast?_concat]

/-- A header starts and ends with no blank, so it is trimmed. -/
theorem trimList_headerLine {k : Char} (ks rest : List Char) (hk : isBlank k = false) :
    trimList (headerLine (k :: ks) rest) = headerLine (k :: ks) rest := by
  refine trimList_eq_self (fun c hc => ?_) (fun c hc => ?_)
  · rw [headerLine, List.cons_append, List.head?_cons, Option.some.injEq] at hc
    rw [← hc]
    exact hk
  · rw [getLast?_headerLine, Option.some.injEq] at hc
    rw [← hc]
    decide

/-- A header without line feeds reads back. -/
theorem clean_headerLine {keyword rest : List Char} (hk : '\n' ∉ keyword) (hr : '\n' ∉ rest) :
    Clean (headerLine keyword rest) := by
  refine ⟨fun hm => ?_, fun he => ?_⟩
  · rw [headerLine, List.mem_append, List.mem_append, List.mem_singleton] at hm
    rcases hm with hm | hm | hm
    · exact hk hm
    · exact hr hm
    · simp at hm
  · rw [getLast?_headerLine] at he
    simp at he

theorem of_importLine {t : List Char} (h : Normal t) :
    HeaderLine.of (importLine t) = .importOf t := by
  have ht : trimList (importLine t) = importLine t := trimList_headerLine _ _ (by decide)
  have h1 : afterStart? "import ".toList (importLine t) = some (t ++ [';']) := by
    rw [afterStart?_eq_some_iff, importLine, headerLine]
    simp
  have h2 : beforeEnd? [';'] (t ++ [';']) = some t := beforeEnd?_eq_some_iff.mpr rfl
  rw [HeaderLine.of, ht, HeaderLine.importTarget?, h1, Option.bind_some, h2, Option.map_some, h]

theorem not_newline_of_normal {t : List Char} (h : Normal t) : '\n' ∉ t := by
  intro hm
  rw [← h] at hm
  rcases mem_normalizeBlanks hm with hm | hm
  · simp at hm
  · exact absurd hm (by decide)

theorem clean_importLine {t : List Char} (h : Normal t) : Clean (importLine t) :=
  clean_headerLine (by simp) (not_newline_of_normal h)

theorem of_packageLine (p : List Char) : HeaderLine.of (packageLine p) = .package := by
  have ht : trimList (packageLine p) = packageLine p := trimList_headerLine _ _ (by decide)
  have h1 : afterStart? "import ".toList (packageLine p) = none := by
    simp [packageLine, headerLine, afterStart?]
  have h2 : afterStart? "package ".toList (packageLine p) = some (p ++ [';']) := by
    rw [afterStart?_eq_some_iff, packageLine, headerLine]
    simp
  have hp : HeaderLine.isPackage (packageLine p) = true := by
    rw [HeaderLine.isPackage, h2, packageLine, getLast?_headerLine]
    simp
  rw [HeaderLine.of, ht, HeaderLine.importTarget?, h1, Option.bind_none, Option.map_none]
  simp only [hp, if_true]

theorem clean_packageLine {p : List Char} (h : ∀ c ∈ p, isBlank c = false) :
    Clean (packageLine p) :=
  clean_headerLine (by simp) fun hm => absurd (h _ hm) (by decide)

/-! ### A rendered test -/

/-- The lines before the body of a test: its package, its imports and the blank lines after them. -/
def headerLines (package : String) (targets : List String) : List (List Char) :=
  (if package.isEmpty then [] else [packageLine package.toList, []]) ++
    targets.map (fun t => importLine t.toList) ++ [[]]

theorem toList_lines (targets : List String) :
    (String.join ((targets.map fun t => "import " ++ t ++ ";").map (· ++ "\n"))).toList =
      terminated (targets.map fun t => importLine t.toList) := by
  induction targets with
  | nil => rfl
  | cons t ts ih =>
    simp only [String.toList_join, List.map_cons, List.flatMap_cons, String.toList_append] at ih ⊢
    rw [ih, terminated, terminated]
    simp [importLine, headerLine]

/-- A rendered test is its header lines and its body. -/
theorem toList_render {package testClass : String} {r : ResolvedImports} (path : Path)
    (h : r.imports.toList ≠ []) :
    (Artifact.ofResolved package testClass r path).render.toList =
      terminated (headerLines package r.imports.toList) ++ (trimList r.body.toList ++ ['\n']) := by
  have hl : r.lines.isEmpty = false := by simpa [ResolvedImports.lines] using h
  by_cases hp : package.isEmpty = true
  · simp only [Artifact.ofResolved, Artifact.render, hl, hp, if_true, headerLines,
      terminated_append, String.toList_append, ← toList_lines]
    simp [ResolvedImports.lines, terminated, trim]
  · simp only [Artifact.ofResolved, Artifact.render, hl, hp, headerLines, terminated_append,
      String.toList_append, ← toList_lines]
    simp [ResolvedImports.lines, terminated, trim, packageLine, headerLine]

theorem importsOf_headerLines {package : String} {targets : List String}
    (h : ∀ t ∈ targets, Normal t.toList) :
    importsOf (headerLines package targets) = targets.map String.toList := by
  have hpackage :
      importsOf (if package.isEmpty then [] else [packageLine package.toList, []]) = [] := by
    split
    · rfl
    · simp [importsOf, of_packageLine, HeaderLine.of_blank (l := []) rfl]
  have himports : ∀ ts : List String, (∀ t ∈ ts, Normal t.toList) →
      importsOf (ts.map fun t => importLine t.toList) = ts.map String.toList := by
    intro ts hts
    induction ts with
    | nil => rfl
    | cons t ts ih =>
      rw [List.forall_mem_cons] at hts
      have ih := ih hts.2
      simp only [importsOf] at ih
      simp only [importsOf, List.map_cons, List.filterMap_cons, of_importLine hts.1, ih]
  rw [headerLines, importsOf_append, importsOf_append, hpackage, himports targets h,
    importsOf_blank (l := []) rfl, List.nil_append, List.append_nil]

/-- The header lines leave nothing but blanks in the body. -/
theorem blank_of_bodyOf_headerLines {package : String} {targets : List String}
    (h : ∀ t ∈ targets, Normal t.toList) :
    ∀ b ∈ terminated (bodyOf (headerLines package targets)), isBlank b = true := by
  have hline : ∀ l ∈ bodyOf (headerLines package targets), l = [] := by
    intro l hl
    obtain ⟨hm, hb⟩ := List.mem_filter.mp hl
    have hb : HeaderLine.of l = .body := of_decide_eq_true hb
    rw [headerLines, List.mem_append, List.mem_append, List.mem_singleton, List.mem_map] at hm
    rcases hm with (hm | ⟨t, ht, rfl⟩) | hm
    · split at hm
      · cases hm
      · rcases List.mem_cons.mp hm with rfl | hm
        · rw [of_packageLine] at hb
          cases hb
        · exact List.mem_singleton.mp hm
    · rw [of_importLine (h t ht)] at hb
      cases hb
    · exact hm
  intro b hb
  obtain ⟨l, hl, hb⟩ := List.mem_flatMap.mp hb
  rw [hline l hl, List.nil_append, List.mem_singleton] at hb
  rw [hb]
  decide

theorem clean_headerLines {package : String} {targets : List String}
    (hp : ∀ c ∈ package.toList, isBlank c = false) (h : ∀ t ∈ targets, Normal t.toList) :
    ∀ l ∈ headerLines package targets, Clean l := by
  have hnil : Clean [] := ⟨by simp, by simp⟩
  intro l hm
  rw [headerLines, List.mem_append, List.mem_append, List.mem_singleton, List.mem_map] at hm
  rcases hm with (hm | ⟨t, ht, rfl⟩) | rfl
  · split at hm
    · cases hm
    · rcases List.mem_cons.mp hm with rfl | hm
      · exact clean_packageLine hp
      · rw [List.mem_singleton.mp hm]
        exact hnil
  · exact clean_importLine (h t ht)
  · exact hnil

/-- A rendered test is told apart into its imports and its body. -/
theorem split_render {package : String} (testClass : String) {r : ResolvedImports} (path : Path)
    (hp : ∀ c ∈ package.toList, isBlank c = false) (hne : r.imports.toList ≠ [])
    (hn : ∀ t ∈ r.imports, Normal t.toList) (hd : declaredTargets r.body.toList = [])
    (hb : bodyList r.body.toList = r.body.toList) :
    declaredTargets (Artifact.ofResolved package testClass r path).render.toList =
        r.imports.toList.map String.toList ∧
      bodyList (Artifact.ofResolved package testClass r path).render.toList = r.body.toList := by
  have ht : trimList r.body.toList = r.body.toList := by
    rw [← hb, trimList_bodyList]
  obtain ⟨hd', hb'⟩ := split_concat_blank (b := '\n') r.body.toList (by decide)
  obtain ⟨h1, h2⟩ := split_terminated_append (r.body.toList ++ ['\n'])
    (clean_headerLines hp hn)
  rw [toList_render path hne, ht]
  refine ⟨?_, ?_⟩
  · rw [h1, importsOf_headerLines hn, hd', hd, List.append_nil]
  · rw [h2, trimList_blanks_append _ (blank_of_bodyOf_headerLines hn), ← bodyList_eq, hb', hb]

/-- A rendered test has no fence. -/
theorem stripFencesList_render {package testClass : String} {r : ResolvedImports} (path : Path)
    (hne : r.imports.toList ≠ []) :
    stripFencesList (Artifact.ofResolved package testClass r path).render.toList =
      trimList (Artifact.ofResolved package testClass r path).render.toList := by
  obtain ⟨t, ts, hts⟩ := List.exists_cons_of_ne_nil hne
  rw [toList_render path hne, headerLines, hts]
  by_cases hp : package.isEmpty = true
  · rw [if_pos hp]
    exact stripFencesList_eq_trimList _ (c := 'i') (by decide) (by decide)
  · rw [if_neg hp]
    exact stripFencesList_eq_trimList _ (c := 'p') (by decide) (by decide)

/-! ### Resolving again -/

/-- What a test takes to import besides what its headers declare. -/
def calledFor (body package className : String) (index : SymbolIndex) : List String :=
  fixedImports ++ subjectImport package className ++ keywordTargets body ++
    projectTargets body className index

theorem body_resolveImports (text package className : String) (index : SymbolIndex) :
    (resolveImports text package className index).body =
      String.ofList (bodyList (stripFencesList text.toList)) := by
  simp [resolveImports, splitGenerated, stripFences]

theorem mem_resolveImports {text package className : String} {index : SymbolIndex} {a : String} :
    a ∈ (resolveImports text package className index).imports ↔
      a ∈ (declaredTargets (stripFencesList text.toList)).map String.ofList ∨
        a ∈ calledFor (resolveImports text package className index).body package className
          index := by
  rw [body_resolveImports]
  simp only [resolveImports, splitGenerated, stripFences, String.toList_ofList, calledFor,
    StringSet.mem_foldl_insert, StringSet.mem_ofList]

theorem mem_imports_of_mem_fixedImports {text package className : String} {index : SymbolIndex}
    {a : String} (h : a ∈ fixedImports) :
    a ∈ (resolveImports text package className index).imports :=
  mem_resolveImports.mpr (Or.inr (by simp [calledFor, h]))

theorem imports_ne_nil (text package className : String) (index : SymbolIndex) :
    (resolveImports text package className index).imports.toList ≠ [] := by
  have h : "java.util.*" ∈ (resolveImports text package className index).imports :=
    mem_imports_of_mem_fixedImports (by simp [fixedImports])
  exact List.ne_nil_of_mem h

theorem normal_of_mem_importsOf {ls : List (List Char)} {t : List Char} (h : t ∈ importsOf ls) :
    Normal t := by
  obtain ⟨l, -, hl⟩ := List.mem_filterMap.mp h
  cases hof : HeaderLine.of l with
  | package => rw [hof] at hl; cases hl
  | body => rw [hof] at hl; cases hl
  | importOf target =>
    simp only [hof, Option.some.injEq] at hl
    subst hl
    rw [HeaderLine.of] at hof
    split at hof
    · rename_i target htarget
      obtain ⟨rest, -, hrest⟩ := Option.map_eq_some_iff.mp htarget
      rw [HeaderLine.importOf.injEq] at hof
      rw [Normal, ← hof, ← hrest]
      exact normalizeBlanks_normalizeBlanks rest
    · split at hof <;> cases hof

theorem normal_of_mem_fixedImports : ∀ t ∈ fixedImports, Normal t.toList := by
  simp [fixedImports, Normal]
  decide

theorem normal_of_mem_keywordImports : ∀ k ∈ keywordImports, Normal k.2.toList := by
  simp [keywordImports, Normal]
  decide

theorem normal_of_mem_subjectImport {package className : String}
    (hp : ∀ c ∈ package.toList, isBlank c = false)
    (hc : ∀ c ∈ className.toList, isBlank c = false) :
    ∀ t ∈ subjectImport package className, Normal t.toList := by
  intro t ht
  rw [subjectImport] at ht
  split at ht
  · cases ht
  · rw [List.mem_singleton.mp ht]
    refine normal_of_not_blank fun c hm => ?_
    simp only [String.toList_append, List.mem_append] at hm
    rcases hm with (hm | hm) | hm
    · exact hp c hm
    · simp at hm
      rw [hm]
      decide
    · exact hc c hm

/-- Every import a text resolves to has its blanks normalized. -/
theorem normal_of_mem_imports {text package className : String} {index : SymbolIndex}
    (hp : ∀ c ∈ package.toList, isBlank c = false) (hc : ∀ c ∈ className.toList, isBlank c = false)
    (hi : ∀ name q, index.resolve? name = some q → ∀ c ∈ q.toList, isBlank c = false) :
    ∀ t ∈ (resolveImports text package className index).imports, Normal t.toList := by
  intro t ht
  rcases mem_resolveImports.mp ht with ht | ht
  · obtain ⟨target, htarget, rfl⟩ := List.mem_map.mp ht
    rw [String.toList_ofList]
    exact normal_of_mem_importsOf htarget
  · rw [calledFor, List.mem_append, List.mem_append, List.mem_append] at ht
    rcases ht with ((ht | ht) | ht) | ht
    · exact normal_of_mem_fixedImports t ht
    · exact normal_of_mem_subjectImport hp hc t ht
    · obtain ⟨k, hk, rfl⟩ := List.mem_map.mp ht
      exact normal_of_mem_keywordImports k (List.mem_filter.mp hk).1
    · obtain ⟨name, -, hname⟩ := List.mem_filterMap.mp ht
      exact normal_of_not_blank (hi name t hname)

/-- The body of resolved code declares nothing, and its body is itself. -/
theorem split_body_resolveImports {text : String} (package className : String) (index : SymbolIndex)
    (h : ¬['\r', '\r', '\n'] <:+: text.toList) :
    declaredTargets (resolveImports text package className index).body.toList = [] ∧
      bodyList (resolveImports text package className index).body.toList =
        (resolveImports text package className index).body.toList := by
  rw [body_resolveImports, String.toList_ofList]
  refine split_bodyList fun l hl => clean_of_mem_linesList (fun hr => ?_) (fun he => ?_) hl
  · exact h (hr.trans (infix_stripFencesList _))
  · exact absurd (not_blank_of_getLast?_stripFencesList he) (by decide)

theorem ResolvedImports.eq_of_parts {r s : ResolvedImports} (himports : r.imports = s.imports)
    (hbody : r.body = s.body) : r = s := by
  obtain ⟨imports, body⟩ := r
  subst himports hbody
  rfl

/-- **Resolving again changes nothing.** A test rendered from resolved code resolves to what it was
rendered from, when no line of the code ends in more than one carriage return and no blanks are in
the package, the name of the class and the full names of the index. -/
theorem resolveImports_render {text package className : String} (testClass : String)
    {index : SymbolIndex} (path : Path) (htext : ¬['\r', '\r', '\n'] <:+: text.toList)
    (hpackage : ∀ c ∈ package.toList, isBlank c = false)
    (hclass : ∀ c ∈ className.toList, isBlank c = false)
    (hindex : ∀ name q, index.resolve? name = some q → ∀ c ∈ q.toList, isBlank c = false) :
    resolveImports
        (Artifact.ofResolved package testClass (resolveImports text package className index)
          path).render
        package className index =
      resolveImports text package className index := by
  have hne := imports_ne_nil text package className index
  have hnormal : ∀ t ∈ (resolveImports text package className index).imports, Normal t.toList :=
    normal_of_mem_imports hpackage hclass hindex
  obtain ⟨hd, hb⟩ := split_body_resolveImports package className index htext
  -- the second time, both parts come from the text that the first result renders to
  have hsecond := body_resolveImports (Artifact.ofResolved package testClass
    (resolveImports text package className index) path).render package className index
  generalize hr : resolveImports text package className index = r at *
  obtain ⟨hdeclared, hbody⟩ := split_render testClass path hpackage hne hnormal hd hb
  rw [stripFencesList_render path hne, bodyList_trimList, hbody, String.ofList_toList] at hsecond
  have himports : ∀ a, a ∈ (resolveImports (Artifact.ofResolved package testClass r path).render
      package className index).imports ↔ a ∈ r.imports := by
    -- the headers declare the imports of the first result; what its body calls for is among them
    intro a
    rw [mem_resolveImports, stripFencesList_render path hne, declaredTargets_trimList, hdeclared,
      hsecond, List.map_map]
    have hid : String.ofList ∘ String.toList = id := funext fun s => String.ofList_toList
    rw [hid, List.map_id]
    refine ⟨fun ha => ?_, Or.inl⟩
    rcases ha with ha | ha
    · exact ha
    · rw [← hr] at ha ⊢
      exact mem_resolveImports.mpr (Or.inr ha)
  exact ResolvedImports.eq_of_parts (StringSet.ext_mem himports) hsecond

/-- The index of a project with one class. -/
def cartIndex : SymbolIndex :=
  ⟨(∅ : StringMap SymbolEntry).insert "Cart" ⟨"shop.Cart", ⟨"Cart.java"⟩⟩, ∅⟩

/-- A fenced reply whose lines end in carriage returns, with headers and a body. -/
def cartReply : String :=
  "\x60\x60\x60java\r\npackage shop;\r\nimport   java.util.List ;\r\nclass CartTest \x7b\r\n" ++
    "  List<Cart> carts;\r\n\x7d\r\n\x60\x60\x60"

theorem not_blank_of_all {cs : List Char} (h : cs.all (fun c => !isBlank c) = true) :
    ∀ c ∈ cs, isBlank c = false := by
  simpa only [List.all_eq_true, Bool.not_eq_true'] using h

theorem resolve?_cartIndex {name q : String} (h : cartIndex.resolve? name = some q) :
    q = "shop.Cart" := by
  rw [SymbolIndex.resolve?, cartIndex] at h
  by_cases hn : name = "Cart"
  · rw [hn, StringMap.get?_insert_self] at h
    exact (Option.some.inj h).symm
  · rw [StringMap.get?_insert_of_ne hn, StringMap.get?_empty] at h
    cases h

theorem resolveImports_render_cart :
    ¬['\r', '\r', '\n'] <:+: cartReply.toList ∧
      (resolveImports cartReply "shop" "Cart" cartIndex).body.toList.head? = some 'c' ∧
      resolveImports
          (Artifact.ofResolved "shop" "CartTest" (resolveImports cartReply "shop" "Cart" cartIndex)
            ⟨"CartTest.java"⟩).render "shop" "Cart" cartIndex =
        resolveImports cartReply "shop" "Cart" cartIndex := by
  have htext : ¬['\r', '\r', '\n'] <:+: cartReply.toList := by decide +kernel
  refine ⟨htext, by decide +kernel, resolveImports_render "CartTest" _ htext
    (not_blank_of_all (by decide +kernel)) (not_blank_of_all (by decide +kernel)) ?_⟩
  intro name q hq
  rw [resolve?_cartIndex hq]
  exact not_blank_of_all (by decide +kernel)

end Testsmith
