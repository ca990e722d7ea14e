/-
# The order of import lines

The imports of a test are in the order of what they import, and its lines are these with a keyword
before and a semicolon after them. The lines are in order themselves but for one case: an import that
goes on from another one with a character before the semicolon, as that of a nested type goes on with
a point, and that of `Order2` from `Order` with a digit. Its line comes second, and is the smaller
one (`importLine_lt_iff`). No two imports for the frameworks are such a pair.

Key definitions: `Overtakes`, `Increasing`, `LinesInOrder`.
Key theorems: `append_lt_append_iff`, `importLine_lt_iff`, `increasing_lines_iff`,
`resolveImports_linesInOrder`.
-/
import Mathlib.Data.Char
import Testsmith.Proofs.Imports.Unambiguous
import Testsmith.Proofs.Text.Bytes

namespace Testsmith

open Text

/-- The second import goes on from the first one with a character before the semicolon. -/
def Overtakes (a b : String) : Prop :=
  ∃ c rest, b.toList = a.toList ++ c :: rest ∧ c < ';'

theorem overtakes_iff {a b : String} : Overtakes a b ↔
    (b.toList.drop a.toList.length).head?.any (· < ';') = true ∧ a.toList <+: b.toList := by
  constructor
  · rintro ⟨c, rest, hb, hc⟩
    rw [hb, List.drop_left]
    exact ⟨decide_eq_true hc, List.prefix_append _ _⟩
  · rintro ⟨hany, tail, hb⟩
    obtain ⟨c, hhead, hc⟩ := (Option.any_eq_true _ _).mp hany
    rw [← hb, List.drop_left] at hhead
    obtain ⟨rest, rfl⟩ := List.head?_eq_some_iff.mp hhead
    exact ⟨c, rest, hb.symm, of_decide_eq_true hc⟩

instance (a b : String) : Decidable (Overtakes a b) := decidable_of_iff _ overtakes_iff.symm

/-- Texts in strictly increasing order of their bytes. -/
def Increasing (ls : List String) : Prop := ls.Pairwise fun l m => bytesOf l < bytesOf m

/-- The lines of a test that import something. -/
structure LinesInOrder (r : ResolvedImports) : Prop where
  /-- They are in order exactly if no import overtakes another one. -/
  increasing_iff : Increasing r.lines ↔ ∀ a ∈ r.imports, ∀ b ∈ r.imports, ¬Overtakes a b
  /-- Each line is there once. -/
  nodup : r.lines.Nodup
  /-- Of two that are out of order, one is not for the frameworks. -/
  frameworks : ∀ a ∈ frameworkImports r.body, ∀ b ∈ frameworkImports r.body, ¬Overtakes a b

/-! ### Texts with the same end -/

/-- Texts in order are so with the same character after them, unless the second goes on from the
first with a smaller one. -/
theorem append_lt_append_iff {d : Char} : ∀ {as bs : List Char}, as < bs →
    (as ++ [d] < bs ++ [d] ↔ ¬∃ c rest, bs = as ++ c :: rest ∧ c < d)
  | [], [], h => absurd h (List.lt_irrefl _)
  | [], b :: bs, _ => by
    have hrest : [] < bs ++ [d] := by
      cases bs with
      | nil => exact List.nil_lt_cons _ _
      | cons c cs => exact List.nil_lt_cons _ _
    have hgoes : (∃ c rest, b :: bs = [] ++ c :: rest ∧ c < d) ↔ b < d := by
      constructor
      · rintro ⟨c, rest, he, hc⟩
        rw [List.nil_append, List.cons.injEq] at he
        rw [he.1]
        exact hc
      · intro hb
        exact ⟨b, bs, rfl, hb⟩
    rw [hgoes, List.nil_append, List.cons_append, List.cons_lt_cons_iff, Char.not_lt]
    simp only [hrest, and_true]
    exact le_iff_lt_or_eq.symm
  | a :: as, [], h => absurd h (List.not_lt_nil _)
  | a :: as, b :: bs, h => by
    rw [List.cons_append, List.cons_append, List.cons_lt_cons_iff]
    rcases List.cons_lt_cons_iff.mp h with hlt | ⟨rfl, hrest⟩
    · have hne : a ≠ b := Char.ne_of_lt hlt
      simp [hlt, hne.symm]
    · rw [append_lt_append_iff hrest]
      simp

/-- What both texts begin with does not matter. -/
theorem append_left_lt_iff (pre : List Char) {as bs : List Char} :
    pre ++ as < pre ++ bs ↔ as < bs := by
  induction pre with
  | nil => rfl
  | cons c pre ih =>
    rw [List.cons_append, List.cons_append, List.cons_lt_cons_iff, ih]
    simp

/-! ### Lines of imports -/

theorem toList_importLine (target : String) :
    ("import " ++ target ++ ";").toList = "import ".toList ++ (target.toList ++ [';']) := by
  simp

/-- **The lines of two imports are in the order of the imports, unless the second overtakes the
first.** -/
theorem importLine_lt_iff {a b : String} (h : a < b) :
    "import " ++ a ++ ";" < "import " ++ b ++ ";" ↔ ¬Overtakes a b := by
  rw [String.lt_iff, toList_importLine, toList_importLine, append_left_lt_iff,
    append_lt_append_iff (String.lt_iff.mp h)]
  rfl

/-- An import that overtakes another one comes after it. -/
theorem Overtakes.lt {a b : String} (h : Overtakes a b) : a < b := by
  obtain ⟨c, rest, hb, -⟩ := h
  have hlt : a.toList ++ [] < a.toList ++ c :: rest :=
    List.append_left_lt (List.nil_lt_cons c rest)
  rw [String.lt_iff, hb]
  rwa [List.append_nil] at hlt

/-- In a list in order, a pair that is out of order stands in the list as it is. -/
theorem pairwise_overtakes_iff {as : List String} (h : as.Pairwise (· < ·)) :
    (as.Pairwise fun a b => ¬Overtakes a b) ↔ ∀ a ∈ as, ∀ b ∈ as, ¬Overtakes a b := by
  constructor
  · intro hpairs a ha b hb hover
    have hboth : as.Pairwise fun a b => ¬Overtakes a b ∧ ¬Overtakes b a := by
      refine (hpairs.and h).imp ?_
      rintro a b ⟨hno, hlt⟩
      exact ⟨hno, fun hover => String.lt_asymm hlt hover.lt⟩
    have : Std.Symm fun a b : String => ¬Overtakes a b ∧ ¬Overtakes b a :=
      ⟨fun _ _ hno => hno.symm⟩
    have hne : a ≠ b := by
      rintro rfl
      exact String.lt_irrefl a hover.lt
    exact (hboth.forall ha hb hne).1 hover
  · intro hall
    exact h.imp_of_mem fun ha hb _ => hall _ ha _ hb

/-- **The lines are in order exactly if no import overtakes another one.** -/
theorem increasing_lines_iff (r : ResolvedImports) :
    Increasing r.lines ↔ ∀ a ∈ r.imports, ∀ b ∈ r.imports, ¬Overtakes a b := by
  have hlines : Increasing r.lines ↔ r.imports.toList.Pairwise fun a b => ¬Overtakes a b := by
    rw [Increasing, ResolvedImports.lines, List.pairwise_map]
    simp only [← lt_iff_bytesOf_lt]
    constructor
    · intro h
      refine (h.and r.imports.sorted).imp ?_
      rintro a b ⟨hline, hlt⟩
      exact (importLine_lt_iff hlt).mp hline
    · intro h
      refine (h.and r.imports.sorted).imp ?_
      rintro a b ⟨hno, hlt⟩
      exact (importLine_lt_iff hlt).mpr hno
  rw [hlines, pairwise_overtakes_iff r.imports.sorted]
  rfl

theorem nodup_lines (r : ResolvedImports) : r.lines.Nodup := by
  have hdistinct : r.imports.toList.Nodup := r.imports.sorted.imp String.ne_of_lt
  refine hdistinct.map fun a b hline => ?_
  have hlist := congrArg String.toList hline
  rw [toList_importLine, toList_importLine, List.append_cancel_left_eq,
    List.append_cancel_right_eq] at hlist
  exact String.toList_inj.mp hlist

/-- No import for the frameworks overtakes another one. -/
theorem not_overtakes_frameworks (body : String) :
    ∀ a ∈ frameworkImports body, ∀ b ∈ frameworkImports body, ¬Overtakes a b := by
  have hall : ∀ a ∈ fixedImports ++ keywordImports.map (·.2),
      ∀ b ∈ fixedImports ++ keywordImports.map (·.2), ¬Overtakes a b := by decide +kernel
  have hsub := frameworkImports_subset body
  intro a ha b hb
  exact hall a (hsub ha) b (hsub hb)

/-- **The import lines of a test are distinct, and in order unless an import overtakes another
one.** -/
theorem resolveImports_linesInOrder (text package className testClass : String) (path : Path)
    (index : SymbolIndex) :
    let r := resolveImports text package className index
    LinesInOrder r ∧ (Artifact.ofResolved package testClass r path).imports = r.lines := by
  intro r
  exact ⟨⟨increasing_lines_iff r, nodup_lines r, not_overtakes_frameworks r.body⟩, rfl⟩

/-- The line of a nested type comes after that of the type around it, and is the smaller one. -/
theorem not_increasing_nested :
    ¬Increasing (resolveImports
      "import java.util.Map;\nimport java.util.Map.Entry;\nclass CartTest {}"
      "" "Cart" .empty).lines := by
  generalize hr : resolveImports _ _ _ _ = r
  have hmem := mem_imports_iff hr
  have hmap := (hmem "java.util.Map").mpr (List.mem_append_left _ (by decide +kernel))
  have hentry := (hmem "java.util.Map.Entry").mpr (List.mem_append_left _ (by decide +kernel))
  rw [increasing_lines_iff]
  intro h
  exact h _ hmap _ hentry (by decide +kernel)

end Testsmith
