/-
# Syntax trees spell their source

The tables of Java are such that its parser loses no text, so that the tokens of a syntax tree, each
with the blanks before it, make up the source (`parse_spells`). A node below the root then stands at
a place of the source that the nodes around it tell (`StandsAt.place`).

Key definitions: `Node.spelled`, `StandsAt`.
Key theorems: `regular_automaton`, `parse_spells`, `StandsAt.place`.
-/
import Testsmith.Java.Parser
import Testsmith.Proofs.Parsing.Lossless

namespace Testsmith.Parsing

/-! ### Tables -/

namespace Chunks

variable {α : Type}

/-- All data. -/
def toList (c : Chunks α) : List α := c.chunks.toList.flatMap Array.toList

theorem mem_of_get? {c : Chunks α} {i : Nat} {x : α} (h : c.get? i = some x) : x ∈ c.toList := by
  rw [get?] at h
  split at h
  · rename_i chunk hchunk
    exact List.mem_flatMap.mpr ⟨chunk, (Array.mem_of_getElem? hchunk).val,
      (Array.mem_of_getElem? h).val⟩
  · cases h

/-- What a map holds for a key is in one of the changes that the map is made of. -/
theorem mem_of_lookup {maps : Chunks Revision} {key target : Nat} : ∀ {depth map : Nat},
    maps.lookup key depth map = some target → ∃ r ∈ maps.toList, (key, target) ∈ r.changes
  | 0, _, h => by cases h
  | depth + 1, map, h => by
    rw [lookup] at h
    split at h
    · cases h
    split at h
    · cases h
    rename_i r hr
    split at h
    · cases h
    · rename_i hkey
      obtain rfl := Option.some.inj h
      obtain ⟨before, after, hchanges, -⟩ := List.lookup_eq_some_iff.mp hkey
      exact ⟨r, mem_of_get? hr, hchanges ▸ List.mem_append_right _ List.mem_cons_self⟩
    · exact mem_of_lookup h

end Chunks

end Testsmith.Parsing

namespace Testsmith.Java

open Parsing (Automaton Subtree Symbol)

/-- Nothing shifts to where the text may end. -/
theorem shiftMaps_regular : ∀ r ∈ shiftMaps.toList, ∀ c ∈ r.changes, c.2 ≠ 1310 := by
  decide +kernel

/-- Only the construct of a whole file leads to where the text may end. -/
theorem gotoMaps_regular : ∀ r ∈ gotoMaps.toList, ∀ c ∈ r.changes, c.2 = 1310 → c.1 = 0 := by
  decide +kernel

theorem lexicon_proper : lexicon.Proper where
  modes := by
    have h : ∀ mode ∈ lexicon.modes.toList, mode.Proper := by decide +kernel
    exact fun mode hmode => h mode hmode.val
  loose := by decide +kernel
  word := by decide
  keywords := by decide +kernel

/-- **The tables of Java are such that no text is lost.** -/
theorem regular_automaton : automaton.Regular where
  lexicon := lexicon_proper
  shifts := by
    intro state token h
    obtain ⟨r, hr, hc⟩ := Parsing.Chunks.mem_of_lookup h
    exact shiftMaps_regular r hr _ hc rfl
  gotos := by
    intro state construct h
    obtain ⟨r, hr, hc⟩ := Parsing.Chunks.mem_of_lookup h
    obtain rfl : construct = 0 := gotoMaps_regular r hr _ hc rfl
    rfl
  notError := by decide
  notFirst := by decide

/-! ### Nodes -/

namespace Node

/-- The text of tokens, with the blanks before each. -/
def charsOf (pieces : List (String × String)) : List Char :=
  pieces.flatMap fun p => p.1.toList ++ p.2.toList

/-- The text of nodes one after another, with the blanks before them. -/
def spelled (ns : List Node) : List Char := charsOf (pieces.piecesOf ns)

/-- The blanks before the node. -/
def lead (n : Node) : List Char := (n.pieces.head?.elim "" Prod.fst).toList

theorem piecesOf_append (ns ms : List Node) :
    pieces.piecesOf (ns ++ ms) = pieces.piecesOf ns ++ pieces.piecesOf ms := by
  induction ns with
  | nil => rfl
  | cons n ns ih => rw [List.cons_append, pieces.piecesOf, pieces.piecesOf, ih, List.append_assoc]

theorem spelled_append (ns ms : List Node) : spelled (ns ++ ms) = spelled ns ++ spelled ms := by
  rw [spelled, piecesOf_append, charsOf, List.flatMap_append]
  rfl

theorem toList_foldl (ps : List (String × String)) : ∀ s : String,
    (ps.foldl (fun s p => s ++ p.1 ++ p.2) s).toList = s.toList ++ charsOf ps := by
  induction ps with
  | nil => simp [charsOf]
  | cons p ps ih =>
    intro s
    rw [List.foldl_cons, ih]
    simp [charsOf]

/-- The blanks before a node and its text are what its tokens spell. -/
theorem lead_append_text (n : Node) : n.lead ++ n.text.toList = spelled [n] := by
  have hone : spelled [n] = charsOf n.pieces := by
    rw [spelled, pieces.piecesOf, pieces.piecesOf, List.append_nil]
  rw [hone, lead, text]
  cases n.pieces with
  | nil => rfl
  | cons p ps =>
    dsimp only
    rw [toList_foldl]
    simp [charsOf]

theorem spelled_branch (k : Kind) (ns : List Node) : spelled [branch k ns] = spelled ns := by
  rw [spelled, pieces.piecesOf, pieces.piecesOf, List.append_nil]
  rfl

mutual

/-- The nodes of a tree spell what it spells. -/
theorem spelled_ofSubtree : ∀ (parent : Option Nat) (t : Subtree),
    spelled (ofSubtree parent t) = t.chars
  | parent, .leaf f lead text => by
    simp [ofSubtree, spelled, pieces.piecesOf, pieces, charsOf, Subtree.chars]
  | parent, .node f children => by
    rw [ofSubtree, Subtree.chars]
    split
    · split
      · rw [spelled_branch, spelled_ofAll]
      · exact spelled_ofAll _ children
    · rw [spelled_branch, spelled_ofAll]
    · exact spelled_ofAll _ children

theorem spelled_ofAll : ∀ (parent : Option Nat) (ts : List Subtree),
    spelled (ofSubtree.ofAll parent ts) = Subtree.chars.charsOf ts
  | _, [] => rfl
  | parent, t :: ts => by
    rw [ofSubtree.ofAll, spelled_append, spelled_ofSubtree, spelled_ofAll, Subtree.charsOf_cons]

end

/-- A tree that is whole is one node. -/
theorem ofSubtree_of_whole {t : Subtree} (h : t.Whole automaton) (parent : Option Nat) :
    ∃ k ns, ofSubtree parent t = [branch k ns] := by
  obtain ⟨f, children, rfl⟩ := h.node
  have hvisible := h.visible
  have hconstruct := h.construct
  rw [Subtree.symbol, Subtree.features] at hvisible hconstruct
  rw [ofSubtree]
  cases hsymbol : f.symbol with
  | token t => exact absurd hsymbol (hconstruct t)
  | construct c =>
    rw [hsymbol, Automaton.isVisible, automaton] at hvisible
    dsimp only at hvisible ⊢
    cases hkind : kindOf? c with
    | none => simp [hkind] at hvisible
    | some k => exact ⟨k, _, rfl⟩
  | skipped => simp [hsymbol, Automaton.isVisible] at hvisible
  | error => exact ⟨.error, _, rfl⟩

end Node

/-! ### Source texts -/

open Node (spelled)

/-- **A syntax tree spells its source**, unless the parser has given up. -/
theorem parse_spells (source : String) :
    (parse source).root = .branch .error [] ∧ (parse source).broken = true ∨
      spelled (parse source).root.children = source.toList := by
  rcases Parsing.parseText_cases regular_automaton source.toList with hfail | ⟨hchars, hwhole⟩
  · left
    rw [parse, hfail]
    exact ⟨rfl, by decide⟩
  · right
    obtain ⟨k, ns, hroot⟩ := Node.ofSubtree_of_whole hwhole none
    have hspelled := Node.spelled_ofSubtree none (Parsing.parseText automaton source.toList)
    rw [hroot, Node.spelled_branch, hchars] at hspelled
    rw [parse, hroot]
    exact hspelled

/-- The node is one of the top level of a source, and this is what the source has before it and
after it. -/
inductive StandsAt (source : String) (n : Node) : List Char → List Char → Prop
  | intro {left right : List Node} (h : (parse source).root.children = left ++ n :: right) :
    StandsAt source n (spelled left ++ n.lead) (spelled right)

/-- A node stands where it is said to stand. -/
theorem StandsAt.place {source : String} {n : Node} {before after : List Char}
    (h : StandsAt source n before after) :
    source.toList = before ++ n.text.toList ++ after := by
  obtain ⟨hchildren⟩ := h
  rename_i left right
  rcases parse_spells source with ⟨hfail, -⟩ | hspelled
  · rw [hfail] at hchildren
    exact absurd hchildren.symm (List.append_ne_nil_of_right_ne_nil _ (List.cons_ne_nil _ _))
  · calc
      source.toList = spelled (left ++ [n] ++ right) := by
        rw [← hspelled, hchildren, List.append_assoc]
        rfl
      _ = spelled left ++ (n.lead ++ n.text.toList) ++ spelled right := by
        rw [Node.spelled_append, Node.spelled_append, Node.lead_append_text]
      _ = spelled left ++ n.lead ++ n.text.toList ++ spelled right := by
        rw [← List.append_assoc]

end Testsmith.Java
