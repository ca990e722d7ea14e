/-
# What trees spell

The text of a tree is that of its tokens, each with the blanks before it (`Subtree.chars`). A tree
measures what it spells if its extent is that of its text, and it is sound if the same holds of all
trees in it that could be taken out again (`Subtree.Sound`). What the parser makes of sound trees is
sound, and spells what they spell.

Key definitions: `Subtree.chars`, `Subtree.Measures`, `Subtree.Sound`.
Key theorems: `Extent.ofList_append`, `Extent.eq_of_prefix`, `sound_build`, `splitExtras_spec`.
-/
import Testsmith.Parsing.Subtree
import Mathlib.Data.List.TakeDrop
import Mathlib.Data.List.TakeWhile

namespace Testsmith.Parsing

/-! ### Extents of texts -/

namespace Extent

theorem add_def (a b : Extent) :
    a + b = ⟨a.chars + b.chars, a.bytes + b.bytes, a.lines + b.lines⟩ := rfl

protected theorem add_assoc (a b c : Extent) : a + b + c = a + (b + c) := by
  simp only [add_def, Nat.add_assoc]

protected theorem zero_add (a : Extent) : ({} : Extent) + a = a := by
  simp only [add_def, Nat.zero_add]

protected theorem add_zero (a : Extent) : a + {} = a := rfl

theorem foldl_ofChar (cs : List Char) : ∀ e : Extent,
    cs.foldl (fun e c => e + ofChar c) e = e + ofList cs := by
  induction cs with
  | nil => intro e; rfl
  | cons c cs ih =>
    intro e
    have hcons : ofList (c :: cs) = ofChar c + ofList cs := by
      rw [ofList, List.foldl_cons, ih, Extent.zero_add]
    rw [List.foldl_cons, ih, hcons, Extent.add_assoc]

theorem ofList_append (cs ds : List Char) : ofList (cs ++ ds) = ofList cs + ofList ds := by
  rw [ofList, List.foldl_append, foldl_ofChar, foldl_ofChar, Extent.zero_add]

theorem ofList_cons (c : Char) (cs : List Char) : ofList (c :: cs) = ofChar c + ofList cs := by
  rw [ofList, List.foldl_cons, foldl_ofChar, Extent.zero_add]

theorem chars_ofList (cs : List Char) : (ofList cs).chars = cs.length := by
  induction cs with
  | nil => rfl
  | cons c cs ih =>
    rw [ofList_cons, List.length_cons, ← ih]
    exact Nat.add_comm 1 _

theorem bytes_append (cs ds : List Char) :
    (ofList (cs ++ ds)).bytes = (ofList cs).bytes + (ofList ds).bytes := by
  rw [ofList_append]
  rfl

theorem eq_nil_of_bytes {cs : List Char} (h : (ofList cs).bytes = 0) : cs = [] := by
  cases cs with
  | nil => rfl
  | cons c cs =>
    rw [ofList_cons] at h
    exact absurd (Nat.eq_zero_of_add_eq_zero h).1 (Nat.ne_of_gt c.utf8Size_pos)

/-- **Two starts of a text of so many bytes are the same.** -/
theorem eq_of_prefix {cs ds text : List Char} (hc : cs <+: text) (hd : ds <+: text)
    (h : (ofList cs).bytes = (ofList ds).bytes) : cs = ds := by
  have hlonger {cs ds : List Char} (hpre : cs <+: ds)
      (h : (ofList cs).bytes = (ofList ds).bytes) : cs = ds := by
    obtain ⟨more, rfl⟩ := hpre
    rw [bytes_append] at h
    have hmore : more = [] := eq_nil_of_bytes (by omega)
    rw [hmore, List.append_nil]
  rcases List.prefix_or_prefix_of_prefix hc hd with hpre | hpre
  · exact hlonger hpre h
  · exact (hlonger hpre h.symm).symm

end Extent

namespace Subtree

variable {a : Automaton} {t : Subtree} {ts : List Subtree}

/-! ### What trees spell -/

/-- The text of a tree, with the blanks before it. -/
def chars : Subtree → List Char
  | leaf _ lead text => lead ++ text
  | node _ children => charsOf children
where
  /-- The text of trees one after another. -/
  charsOf : List Subtree → List Char
    | [] => []
    | t :: ts => t.chars ++ charsOf ts

@[simp]
theorem charsOf_nil : chars.charsOf [] = [] := rfl

@[simp]
theorem charsOf_cons : chars.charsOf (t :: ts) = t.chars ++ chars.charsOf ts := rfl

@[simp]
theorem charsOf_append (ts us : List Subtree) :
    chars.charsOf (ts ++ us) = chars.charsOf ts ++ chars.charsOf us := by
  induction ts with
  | nil => rfl
  | cons t ts ih => simp [ih]

@[simp]
theorem chars_withExtra (extra : Bool) (t : Subtree) : (t.withExtra extra).chars = t.chars := by
  cases t <;> rfl

@[simp]
theorem chars_prefer (n : Nat) (t : Subtree) : (t.prefer n).chars = t.chars := by
  cases t <;> rfl

@[simp]
theorem chars_build (symbol : Symbol) (ts : List Subtree) :
    (build a symbol ts).chars = chars.charsOf ts := rfl

@[simp]
theorem isExtra_withExtra (extra : Bool) (t : Subtree) : (t.withExtra extra).isExtra = extra := by
  cases t <;> rfl

@[simp]
theorem symbol_prefer (n : Nat) (t : Subtree) : (t.prefer n).symbol = t.symbol := by
  cases t <;> rfl

@[simp]
theorem isExtra_prefer (n : Nat) (t : Subtree) : (t.prefer n).isExtra = t.isExtra := by
  cases t <;> rfl

/-! ### Measures -/

/-- The extent of the tree is that of its text. -/
def Measures (t : Subtree) : Prop := t.total = .ofList t.chars

theorem Measures.withExtra (h : t.Measures) (extra : Bool) : (t.withExtra extra).Measures := by
  cases t <;> exact h

theorem Measures.prefer (h : t.Measures) (n : Nat) : (t.prefer n).Measures := by
  cases t <;> exact h

theorem Measures.length (h : t.Measures) : t.total.chars = t.chars.length := by
  rw [h, Extent.chars_ofList]

@[simp]
theorem symbol_addChildren : ∀ (ts : List Subtree) (f : Features) (first : Bool),
    (addChildren f first ts).symbol = f.symbol
  | [], _, _ => rfl
  | _ :: ts, _, _ => by rw [addChildren, symbol_addChildren ts]; rfl

@[simp]
theorem extra_addChildren : ∀ (ts : List Subtree) (f : Features) (first : Bool),
    (addChildren f first ts).extra = f.extra
  | [], _, _ => rfl
  | _ :: ts, _, _ => by rw [addChildren, extra_addChildren ts]; rfl

theorem extent_addChildren_rest : ∀ {ts : List Subtree} {f : Features}, (∀ t ∈ ts, t.Measures) →
    (addChildren f false ts).lead + (addChildren f false ts).size =
      f.lead + f.size + .ofList (chars.charsOf ts)
  | [], f, _ => (Extent.add_zero _).symm
  | t :: ts, f, h => by
    rw [addChildren, extent_addChildren_rest fun u hu => h u (List.mem_cons_of_mem _ hu),
      charsOf_cons, Extent.ofList_append, ← h t List.mem_cons_self, ← Extent.add_assoc]
    exact congrArg (· + _) (Extent.add_assoc _ _ _).symm

theorem extent_addChildren {ts : List Subtree} {f : Features} (h : ∀ t ∈ ts, t.Measures)
    (hlead : f.lead = {}) (hsize : f.size = {}) :
    (addChildren f true ts).lead + (addChildren f true ts).size = .ofList (chars.charsOf ts) := by
  cases ts with
  | nil =>
    rw [addChildren, hlead, hsize]
    rfl
  | cons t ts =>
    rw [addChildren, extent_addChildren_rest fun u hu => h u (List.mem_cons_of_mem _ hu),
      charsOf_cons, Extent.ofList_append, ← h t List.mem_cons_self]
    rfl

@[simp]
theorem symbol_build (symbol : Symbol) (ts : List Subtree) :
    (build a symbol ts).symbol = symbol := by
  simp only [build, Subtree.symbol, features, symbol_addChildren]

@[simp]
theorem isExtra_build (symbol : Symbol) (ts : List Subtree) :
    (build a symbol ts).isExtra = false := by
  simp only [build, isExtra, features, extra_addChildren]

theorem measures_build (symbol : Symbol) (h : ∀ t ∈ ts, t.Measures) :
    (build a symbol ts).Measures :=
  extent_addChildren h rfl rfl

/-! ### Sound trees -/

/-- The tree measures what it spells, and so does every tree in it that is not passed over text. -/
inductive Sound : Subtree → Prop
  | leaf {f : Features} {lead text : List Char} : (leaf f lead text).Measures →
      f.symbol ≠ .error → Sound (leaf f lead text)
  | node {f : Features} {children : List Subtree} : (node f children).Measures →
      (f.symbol ≠ .skipped → ∀ t ∈ children, t.Sound) → Sound (node f children)

theorem Sound.measures (h : t.Sound) : t.Measures := by
  cases h with
  | leaf h _ => exact h
  | node h _ => exact h

theorem Sound.withExtra (h : t.Sound) (extra : Bool) : (t.withExtra extra).Sound := by
  cases h with
  | leaf hm hs => exact .leaf (hm.withExtra extra) hs
  | node hm hs => exact .node (hm.withExtra extra) hs

theorem Sound.prefer (h : t.Sound) (n : Nat) : (t.prefer n).Sound := by
  cases h with
  | leaf hm hs => exact .leaf (hm.prefer n) hs
  | node hm hs => exact .node (hm.prefer n) hs

theorem sound_build {symbol : Symbol} (h : ∀ t ∈ ts, t.Sound) : (build a symbol ts).Sound :=
  .node (measures_build symbol fun t ht => (h t ht).measures) fun _ => h

/-- What is passed over need not be sound itself. -/
theorem sound_build_skipped (h : ∀ t ∈ ts, t.Measures) : (build a .skipped ts).Sound :=
  .node (measures_build .skipped h) fun hne => absurd (symbol_addChildren _ _ _) hne

theorem sound_missing (token : Nat) : (missing a token).Sound :=
  .leaf rfl (by simp)

/-- A sound tree of an error is made of sound trees. -/
theorem Sound.of_error (h : t.Sound) (he : t.symbol = .error) :
    t.chars = chars.charsOf t.children ∧ ∀ u ∈ t.children, u.Sound := by
  cases h with
  | leaf _ hs => exact absurd he hs
  | @node f children _ hs =>
    have he : f.symbol = .error := he
    exact ⟨rfl, hs (by rw [he]; simp)⟩

/-! ### Extra trees -/

theorem splitExtras_spec (ts : List Subtree) :
    (splitExtras ts).1 ++ (splitExtras ts).2 = ts ∧ ∀ t ∈ (splitExtras ts).2, t.isExtra = true := by
  rw [splitExtras, List.span_eq_takeWhile_dropWhile]
  constructor
  · rw [← List.reverse_append, List.takeWhile_append_dropWhile, List.reverse_reverse]
  · intro t ht
    exact List.mem_takeWhile_imp (List.mem_reverse.mp ht)

/-- The last tree that is not extra, with what is around it. -/
theorem span_isExtra {before after : List Subtree} (ht : t.isExtra = false)
    (hafter : ∀ u ∈ after, u.isExtra = true) :
    (before ++ t :: after).reverse.span isExtra = (after.reverse, t :: before.reverse) := by
  have hall : ∀ u ∈ after.reverse, u.isExtra = true := fun u hu => hafter u (List.mem_reverse.mp hu)
  rw [List.span_eq_takeWhile_dropWhile, List.reverse_append, List.reverse_cons, List.append_assoc,
    List.takeWhile_append_of_pos hall, List.dropWhile_append_of_pos hall]
  simp [ht]

end Subtree

end Testsmith.Parsing
