/-
# Which names code mentions

The two scans of a syntax tree for names are told by where the words of the tree stand: which
constructs are around each of them (`Node.Has`). Both scans pass over what is in a declaration of the
package or of imports, and the second one carries along whether it has come into type arguments. They
find what fulfils a condition on all the constructs around a word.

Key definitions: `Node.Has`, `OutsideHeaders`, `Mentions`.
Key theorems: `Node.exists_has_branch_iff`, `mem_capitalizedIn_iff`, `mem_argumentsIn_iff`,
`mentions_tree_and_source`.
-/
import Testsmith.Java.Mentions

namespace Testsmith.Java

/-- The tree has a token of the kind and the text, and around it constructs of the kinds in the
list, from the root inwards. -/
inductive Node.Has : Node → List Kind → Leaf → String → Prop
  | leaf {k : Leaf} {lead text : String} : Has (.leaf k lead text) [] k text
  | branch {c : Kind} {children : List Node} {n : Node} {around : List Kind} {k : Leaf}
      {text : String} (hn : n ∈ children) (h : n.Has around k text) :
      Has (.branch c children) (c :: around) k text

/-- None of the constructs declares the package or an import. -/
def OutsideHeaders (around : List Kind) : Prop :=
  .packageDeclaration ∉ around ∧ .importDeclaration ∉ around

/-- The text begins with one of the letters from A to Z. -/
def Capitalized (s : String) : Prop := ∃ c ∈ s.toList.head?, 'A' ≤ c ∧ c ≤ 'Z'

/-- **The sets are those of the names that the tree mentions**: the capitalized ones, and those in
type arguments. -/
structure Mentions (root : Node) (capitalized arguments : StringSet) : Prop where
  mem_capitalized : ∀ s, s ∈ capitalized ↔ ∃ around k, root.Has around k s ∧
    (Capitalized s ∧ (k = .identifier ∨ k = .typeIdentifier)) ∧ OutsideHeaders around
  mem_arguments : ∀ s, s ∈ arguments ↔ ∃ around, root.Has around .typeIdentifier s ∧
    .typeArguments ∈ around ∧ OutsideHeaders around
  /-- A capitalized name in type arguments is found by both scans. -/
  mem_both : ∀ s ∈ arguments, Capitalized s → s ∈ capitalized

variable {s : String}

theorem isCapitalized_iff : isCapitalized s = true ↔ Capitalized s := by
  rw [isCapitalized, Option.any_eq_true]
  exact exists_congr fun c => and_congr_right fun _ => decide_eq_true_iff

/-! ### Where words stand -/

theorem outsideHeaders_nil : OutsideHeaders [] := ⟨List.not_mem_nil, List.not_mem_nil⟩

theorem outsideHeaders_cons_iff {c : Kind} {around : List Kind} : OutsideHeaders (c :: around) ↔
    (c ≠ .packageDeclaration ∧ c ≠ .importDeclaration) ∧ OutsideHeaders around := by
  simp only [OutsideHeaders, List.mem_cons, not_or, ne_eq, eq_comm (a := c)]
  exact and_and_and_comm

namespace Node

theorem has_leaf_iff {k k' : Leaf} {lead text : String} {around : List Kind} :
    Has (.leaf k' lead text) around k s ↔ around = [] ∧ k = k' ∧ s = text := by
  constructor
  · rintro ⟨⟩
    exact ⟨rfl, rfl, rfl⟩
  · rintro ⟨rfl, rfl, rfl⟩
    exact .leaf

theorem has_branch_iff {c : Kind} {children : List Node} {around : List Kind} {k : Leaf} :
    Has (.branch c children) around k s ↔
      ∃ n ∈ children, ∃ rest, n.Has rest k s ∧ around = c :: rest := by
  constructor
  · intro h
    cases h with
    | branch hn h => exact ⟨_, hn, _, h, rfl⟩
  · rintro ⟨n, hn, rest, h, rfl⟩
    exact .branch hn h

variable {p : List Kind → Leaf → Prop}

/-- A token is its only word. -/
theorem exists_has_leaf_iff {k : Leaf} {lead text : String} :
    (∃ around k', Has (.leaf k lead text) around k' s ∧ p around k' ∧ OutsideHeaders around) ↔
      p [] k ∧ s = text := by
  constructor
  · rintro ⟨around, k', h, hp, -⟩
    obtain ⟨rfl, rfl, rfl⟩ := has_leaf_iff.mp h
    exact ⟨hp, rfl⟩
  · rintro ⟨hp, rfl⟩
    exact ⟨[], k, .leaf, hp, outsideHeaders_nil⟩

/-- The words of a construct outside headers are those of its parts, unless it is a header. -/
theorem exists_has_branch_iff {c : Kind} {children : List Node} :
    (∃ around k, Has (.branch c children) around k s ∧ p around k ∧ OutsideHeaders around) ↔
      (c ≠ .packageDeclaration ∧ c ≠ .importDeclaration) ∧ ∃ n ∈ children, ∃ around k,
        n.Has around k s ∧ p (c :: around) k ∧ OutsideHeaders around := by
  constructor
  · rintro ⟨_, k, hhas, hp, houtside⟩
    obtain ⟨n, hn, around, h, rfl⟩ := has_branch_iff.mp hhas
    obtain ⟨hc, houtside⟩ := outsideHeaders_cons_iff.mp houtside
    exact ⟨hc, n, hn, around, k, h, hp, houtside⟩
  · rintro ⟨hc, n, hn, around, k, h, hp, houtside⟩
    exact ⟨c :: around, k, .branch hn h, hp, outsideHeaders_cons_iff.mpr ⟨hc, houtside⟩⟩

end Node

/-! ### The scans -/

theorem capitalizedOf_eq (ns : List Node) :
    capitalizedIn.capitalizedOf ns = ns.flatMap capitalizedIn := by
  induction ns with
  | nil => rfl
  | cons n ns ih => rw [capitalizedIn.capitalizedOf, ih, List.flatMap_cons]

theorem argumentsOf_eq (inside : Bool) (ns : List Node) :
    argumentsIn.argumentsOf inside ns = ns.flatMap (argumentsIn inside) := by
  induction ns with
  | nil => rfl
  | cons n ns ih => rw [argumentsIn.argumentsOf, ih, List.flatMap_cons]

/-- A header adds nothing to a scan. -/
theorem mem_unless_header_iff {c : Kind} {found : List String} :
    (s ∈ if c == .packageDeclaration || c == .importDeclaration then [] else found) ↔
      (c ≠ .packageDeclaration ∧ c ≠ .importDeclaration) ∧ s ∈ found := by
  simp [and_assoc]

/-- A token adds its text to a scan, or nothing. -/
theorem mem_token_iff {b : Bool} {text : String} :
    (s ∈ if b then [text] else []) ↔ b = true ∧ s = text := by
  simp

/-- **The first scan finds the capitalized words outside headers.** -/
theorem mem_capitalizedIn_iff : ∀ root : Node, s ∈ capitalizedIn root ↔
    ∃ around k, root.Has around k s ∧
      (Capitalized s ∧ (k = .identifier ∨ k = .typeIdentifier)) ∧ OutsideHeaders around
  | .leaf k lead text => by
    rw [Node.exists_has_leaf_iff, capitalizedIn, mem_token_iff]
    refine and_congr_left fun hs => ?_
    rw [Bool.and_eq_true, Bool.or_eq_true, beq_iff_eq, beq_iff_eq, ← hs, isCapitalized_iff,
      and_comm]
  | .branch c children => by
    rw [Node.exists_has_branch_iff, capitalizedIn, mem_unless_header_iff, capitalizedOf_eq,
      List.mem_flatMap]
    exact and_congr_right fun _ => exists_congr fun n => and_congr_right fun hn =>
      mem_capitalizedIn_iff n

/-- **The second scan finds the words in type arguments outside headers.** What stands in type
arguments already needs none around it in the tree. -/
theorem mem_argumentsIn_iff : ∀ (inside : Bool) (root : Node), s ∈ argumentsIn inside root ↔
    ∃ around k, root.Has around k s ∧
      (k = .typeIdentifier ∧ (inside = true ∨ .typeArguments ∈ around)) ∧ OutsideHeaders around
  | inside, .leaf k lead text => by
    rw [Node.exists_has_leaf_iff, argumentsIn, mem_token_iff, Bool.and_eq_true, beq_iff_eq,
      or_iff_left List.not_mem_nil, and_comm (a := inside = true)]
  | inside, .branch c children => by
    rw [Node.exists_has_branch_iff, argumentsIn, mem_unless_header_iff, argumentsOf_eq,
      List.mem_flatMap]
    refine and_congr_right fun _ => exists_congr fun n => and_congr_right fun hn => ?_
    rw [mem_argumentsIn_iff _ n]
    simp only [Bool.or_eq_true, beq_iff_eq, List.mem_cons, or_assoc, eq_comm (a := c)]

/-! ### The names of a tree -/

/-- **The scans of a tree give the names it mentions.** -/
theorem mentions_scans (root : Node) :
    Mentions root (.ofList (capitalizedIn root)) (.ofList (argumentsIn false root)) where
  mem_capitalized := by
    intro s
    rw [StringSet.mem_ofList, mem_capitalizedIn_iff]
  mem_arguments := by
    intro s
    rw [StringSet.mem_ofList, mem_argumentsIn_iff]
    refine exists_congr fun around => ?_
    constructor
    · rintro ⟨_, hhas, ⟨rfl, hinside⟩, houtside⟩
      exact ⟨hhas, hinside.resolve_left Bool.false_ne_true, houtside⟩
    · rintro ⟨hhas, hinside, houtside⟩
      exact ⟨_, hhas, ⟨rfl, Or.inr hinside⟩, houtside⟩
  mem_both := by
    intro s hs hcapital
    rw [StringSet.mem_ofList] at hs ⊢
    obtain ⟨around, k, hhas, ⟨hk, -⟩, houtside⟩ := (mem_argumentsIn_iff false root).mp hs
    exact (mem_capitalizedIn_iff root).mpr
      ⟨around, k, hhas, ⟨hcapital, Or.inr hk⟩, houtside⟩

/-- **The names that code mentions**, of every tree and so of every source text. -/
theorem mentions_tree_and_source :
    (∀ root, Mentions root (.ofList (capitalizedIn root)) (.ofList (argumentsIn false root))) ∧
      ∀ source, Mentions (parse source).root (capitalizedNames source) (genericArguments source) :=
  ⟨mentions_scans, fun source => mentions_scans (parse source).root⟩

/-- In `Map<c, D>` the first name is in no type arguments, and the second one is not capitalized. -/
example : let type : Node := .branch .genericType [.leaf .typeIdentifier "" "Map",
      .branch .typeArguments [.leaf .symbol "" "<", .leaf .typeIdentifier "" "c",
        .leaf .symbol "" ",", .leaf .typeIdentifier " " "D", .leaf .symbol "" ">"]]
    capitalizedIn type = ["Map", "D"] ∧ argumentsIn false type = ["c", "D"] := by
  decide +kernel

end Testsmith.Java
