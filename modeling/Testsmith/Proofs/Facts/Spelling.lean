/-
# Types of fields as they are spelled

The text of a field's type is a name, perhaps with a package before it and type arguments after it,
and a pair of brackets for each dimension of an array. Java allows blanks after the name, in the
brackets and after them. The simple name of the element is read from the text if it has type
arguments, which are cut off with all that follows them, or if there are no blanks in the brackets
nor after them (`Tight`); otherwise some bracket stays, and the type passes for none that holds plain
values (`isValueType_iff`). So an array of plain values is mocked exactly if it is not spelled
tightly (`judgedByElement_iff`).

Key definitions: `TypeSpelling`, `TypeSpelling.Tight`, `SpelledField`, `JudgedByElement`.
Key theorems: `dropEndings_brackets`, `simpleTypeNameList_tight`, `isValueType_iff`,
`judgedByElement_iff`.
-/
import Mathlib.Data.List.Basic
import Mathlib.Data.List.Induction
import Mathlib.Data.List.TakeWhile
import Testsmith.Java.Facts
import Testsmith.Proofs.Text.Words
import Testsmith.Proofs.Text.Trim
import Testsmith.Strategy

namespace Testsmith

open Text

/-! ### Spellings -/

/-- Nothing but blanks. -/
def Blanks (cs : List Char) : Prop := ∀ c ∈ cs, isBlank c = true

instance (cs : List Char) : Decidable (Blanks cs) := List.decidableBAll _ cs

/-- A part of the name of a type: some characters, none of which can stand after or between names. -/
def IsTypeName (s : List Char) : Prop :=
  s ≠ [] ∧ ∀ c ∈ s, isBlank c = false ∧ c ∉ ['.', '<', '[', ']']

instance (s : List Char) : Decidable (IsTypeName s) :=
  @instDecidableAnd _ _ inferInstance (List.decidableBAll _ s)

/-- A pair of brackets: the blanks in it, and those after it. -/
structure Brackets where
  inside : List Char
  after : List Char
  blank : Blanks inside ∧ Blanks after := by decide

/-- How the type of a field is spelled. -/
structure TypeSpelling where
  /-- The parts of its package, if it is stated. -/
  package : List (List Char) := []
  /-- The simple name of the type, or of that of the elements of an array. -/
  name : List Char
  /-- The blanks after the name. -/
  gap : List Char := []
  /-- What stands between the angle brackets, and the blanks after them. -/
  arguments : Option (List Char × List Char) := none
  /-- The brackets for the dimensions of an array. -/
  dimensions : List Brackets := []
  names : ∀ s ∈ package ++ [name], IsTypeName s := by decide
  gap_blank : Blanks gap := by decide
  arguments_blank : ∀ a ∈ arguments, Blanks a.2 := by decide

/-- The characters of a pair of brackets, with the blanks in it and after it. -/
def Brackets.chars (b : Brackets) : List Char := '[' :: b.inside ++ ']' :: b.after

/-- There are no blanks. -/
def Brackets.Tight (b : Brackets) : Prop := b.inside = [] ∧ b.after = []

instance (b : Brackets) : Decidable b.Tight := inferInstanceAs (Decidable (_ ∧ _))

namespace TypeSpelling

/-- The name with the package. -/
def qualified (t : TypeSpelling) : List Char := ['.'].intercalate (t.package ++ [t.name])

def argumentChars (t : TypeSpelling) : List Char :=
  match t.arguments with
  | none => []
  | some (inside, after) => '<' :: inside ++ '>' :: after

/-- The characters of the type. -/
def chars (t : TypeSpelling) : List Char :=
  t.qualified ++ t.gap ++ t.argumentChars ++ t.dimensions.flatMap Brackets.chars

/-- The text of the type. -/
def text (t : TypeSpelling) : String := String.ofList t.chars

/-- The simple name of the type, or of that of the elements of an array. -/
def element (t : TypeSpelling) : String := String.ofList t.name

/-- The brackets that are not behind type arguments. -/
def bareDimensions (t : TypeSpelling) : List Brackets :=
  if t.arguments.isSome then [] else t.dimensions

/-- There are no blanks in brackets or after them, or they are all behind type arguments. -/
def Tight (t : TypeSpelling) : Prop := ∀ b ∈ t.bareDimensions, b.Tight

instance (t : TypeSpelling) : Decidable t.Tight :=
  inferInstanceAs (Decidable (∀ b ∈ t.bareDimensions, _))

end TypeSpelling

/-! ### Repetitions at the end of a text -/

/-- A bound that is not reached does not matter. -/
theorem dropRepeated_of_le {ending : List Char} (hne : ending ≠ []) : ∀ {cs : List Char}
    {bound bound' : Nat}, cs.length ≤ bound → cs.length ≤ bound' →
      dropRepeated ending bound cs = dropRepeated ending bound' cs
  | cs, 0, 0, _, _ => rfl
  | cs, 0, bound' + 1, h, _ => by
    obtain rfl := List.eq_nil_of_length_eq_zero (Nat.le_zero.mp h)
    obtain ⟨e, es, rfl⟩ := List.exists_cons_of_ne_nil hne
    rfl
  | cs, bound + 1, 0, _, h => by
    obtain rfl := List.eq_nil_of_length_eq_zero (Nat.le_zero.mp h)
    obtain ⟨e, es, rfl⟩ := List.exists_cons_of_ne_nil hne
    rfl
  | cs, bound + 1, bound' + 1, h, h' => by
    have hpos := List.length_pos_iff.mpr hne
    rw [dropRepeated, dropRepeated]
    split
    · have hlen : (cs.drop ending.length).length = cs.length - ending.length := List.length_drop
      exact dropRepeated_of_le hne (by omega) (by omega)
    · rfl

/-- One repetition more is dropped as well. -/
theorem dropEndings_append (cs : List Char) {ending : List Char} (hne : ending ≠ []) :
    dropEndings ending (cs ++ ending) = dropEndings ending cs := by
  have hpos := List.length_pos_iff.mpr hne
  have hlen : (cs ++ ending).length = (cs.length + ending.length - 1) + 1 := by
    rw [List.length_append]
    omega
  have hprefix : ending.reverse.isPrefixOf (ending.reverse ++ cs.reverse) = true := by
    rw [List.isPrefixOf_iff_prefix]
    exact List.prefix_append _ _
  have hbound : dropRepeated ending.reverse (cs.length + ending.length - 1) cs.reverse =
      dropRepeated ending.reverse cs.length cs.reverse :=
    dropRepeated_of_le (by simpa using hne) (by simp; omega) (by simp)
  rw [dropEndings, dropEndings, hlen, List.reverse_append, dropRepeated, if_pos hprefix,
    List.drop_left, hbound]

/-- Nothing is dropped from a text that ends otherwise. -/
theorem dropEndings_of_not_suffix {ending cs : List Char} (h : ¬ending <:+ cs) :
    dropEndings ending cs = cs := by
  have hprefix : ¬ending.reverse.isPrefixOf cs.reverse = true := by
    rwa [List.isPrefixOf_iff_prefix, List.reverse_prefix]
  rw [dropEndings]
  cases cs.length with
  | zero => rw [dropRepeated, List.reverse_reverse]
  | succ n => rw [dropRepeated, if_neg hprefix, List.reverse_reverse]

/-- A text whose last character is another one ends otherwise. -/
theorem not_suffix_concat {c d : Char} (ending cs : List Char) (hne : c ≠ d) :
    ¬ending ++ [d] <:+ cs ++ [c] := by
  rintro ⟨front, h⟩
  rw [← List.append_assoc] at h
  exact hne (List.append_singleton_inj.mp h).2.symm

/-! ### Brackets at the end of a text -/

theorem ne_of_blank {c d : Char} (hc : isBlank c = true) (hd : isBlank d = false) : c ≠ d := by
  rintro rfl
  rw [hc] at hd
  cases hd

theorem Brackets.not_mem_chars (b : Brackets) {c : Char} (hc : isBlank c = false)
    (hne : c ∉ ['[', ']']) : c ∉ b.chars := by
  intro h
  simp only [List.mem_cons, List.not_mem_nil, or_false, not_or] at hne
  simp only [Brackets.chars, List.cons_append, List.mem_cons, List.mem_append] at h
  rcases h with h | h | h | h
  · exact hne.1 h
  · exact ne_of_blank (b.blank.1 c h) hc rfl
  · exact hne.2 h
  · exact ne_of_blank (b.blank.2 c h) hc rfl

theorem Brackets.exists_concat (b : Brackets) : ∃ front c, b.chars = front ++ [c] :=
  (List.eq_nil_or_concat' b.chars).resolve_left (by simp [Brackets.chars])

/-- A text that ends with blanks in brackets, or after them, ends with no pair of brackets. -/
theorem not_suffix_chars (cs : List Char) {b : Brackets} (h : ¬b.Tight) :
    ¬['[', ']'] <:+ cs ++ b.chars := by
  rw [Brackets.chars]
  rcases List.eq_nil_or_concat' b.after with hafter | ⟨front, c, hafter⟩
  · rcases List.eq_nil_or_concat' b.inside with hinside | ⟨front, c, hinside⟩
    · exact absurd ⟨hinside, hafter⟩ h
    · have hc : isBlank c = true := b.blank.1 c (by simp [hinside])
      have htext : cs ++ ('[' :: b.inside ++ ']' :: b.after) =
          ((cs ++ '[' :: front) ++ [c]) ++ [']'] := by simp [hafter, hinside]
      rw [htext]
      rintro ⟨front', h'⟩
      have hboth : (front' ++ ['[']) ++ [']'] = ((cs ++ '[' :: front) ++ [c]) ++ [']'] := by
        rw [← h']
        simp
      exact not_suffix_concat [] _ (ne_of_blank hc (by decide))
        ⟨front', (List.append_singleton_inj.mp hboth).1⟩
  · have hc : isBlank c = true := b.blank.2 c (by simp [hafter])
    have htext : cs ++ ('[' :: b.inside ++ ']' :: b.after) =
        (cs ++ '[' :: b.inside ++ ']' :: front) ++ [c] := by simp [hafter]
    rw [htext]
    exact not_suffix_concat ['['] _ (ne_of_blank hc (by decide))

/-- Brackets with blanks are not dropped: a closing one stays, with blanks after it. -/
theorem dropEndings_brackets {base : List Char} (hbase : ¬['[', ']'] <:+ base)
    (bs : List Brackets) :
    dropEndings ['[', ']'] (base ++ bs.flatMap Brackets.chars) = base ∧ (∀ b ∈ bs, b.Tight) ∨
      (¬∀ b ∈ bs, b.Tight) ∧ ∃ front after, Blanks after ∧
        dropEndings ['[', ']'] (base ++ bs.flatMap Brackets.chars) = front ++ ']' :: after := by
  induction bs using List.reverseRecOn with
  | nil =>
    left
    rw [List.flatMap_nil, List.append_nil, dropEndings_of_not_suffix hbase]
    exact ⟨rfl, by simp⟩
  | append_singleton bs b ih =>
    rw [List.flatMap_append, List.flatMap_singleton, ← List.append_assoc]
    generalize base ++ bs.flatMap Brackets.chars = cs at ih ⊢
    by_cases hb : b.Tight
    · have hchars : b.chars = ['[', ']'] := by
        rw [Brackets.chars, hb.1, hb.2]
        rfl
      have hall : (∀ x ∈ bs ++ [b], x.Tight) ↔ ∀ x ∈ bs, x.Tight := by
        rw [List.forall_mem_append, List.forall_mem_singleton, and_iff_left hb]
      rw [hchars, dropEndings_append cs (by simp), hall]
      exact ih
    · right
      rw [dropEndings_of_not_suffix (not_suffix_chars cs hb)]
      refine ⟨fun hall => hb (hall b (by simp)), cs ++ '[' :: b.inside, b.after, b.blank.2, ?_⟩
      simp [Brackets.chars]

/-! ### The simple name -/

namespace TypeSpelling

variable (t : TypeSpelling)

theorem isTypeName_name : IsTypeName t.name := t.names _ (by simp)

theorem not_point : '.' ∉ t.name := fun h => (t.isTypeName_name.2 _ h).2 (by decide)

/-- The name stands alone, or behind a package and a point. -/
theorem qualified_cases : t.qualified = t.name ∨ ∃ front, t.qualified = front ++ '.' :: t.name := by
  suffices h : ∀ ls : List (List Char), ['.'].intercalate (ls ++ [t.name]) = t.name ∨
      ∃ front, ['.'].intercalate (ls ++ [t.name]) = front ++ '.' :: t.name from h t.package
  intro ls
  induction ls with
  | nil => exact Or.inl List.intercalate_singleton
  | cons l ls ih =>
    right
    rw [List.cons_append, List.intercalate_cons_of_ne_nil (by simp)]
    rcases ih with h | ⟨front, h⟩
    · exact ⟨l, by simp [h]⟩
    · exact ⟨l ++ '.' :: front, by simp [h]⟩

theorem not_blank_of_mem_qualified {c : Char} (hc : c ∈ t.qualified) : isBlank c = false := by
  rcases mem_intercalate hc with hc | ⟨s, hs, hc⟩
  · rw [List.mem_singleton.mp hc]
    decide
  · exact ((t.names s hs).2 c hc).1

theorem not_mem_qualified {c : Char} (hc : c ∈ ['<', '[', ']']) : c ∉ t.qualified := by
  intro h
  rcases mem_intercalate h with h | ⟨s, hs, h⟩
  · rw [List.mem_singleton.mp h] at hc
    revert hc
    decide
  · exact ((t.names s hs).2 c h).2 (List.mem_cons_of_mem _ hc)

theorem not_mem_gap {c : Char} (hc : isBlank c = false) : c ∉ t.gap :=
  fun h => ne_of_blank (t.gap_blank c h) hc rfl

/-- The name ends with no point, and blanks are none. -/
theorem exists_concat_front : ∃ front c, t.qualified ++ t.gap = front ++ [c] ∧ c ∉ ['.', ']'] := by
  rcases List.eq_nil_or_concat' t.gap with hgap | ⟨front, c, hgap⟩
  · obtain ⟨front, c, hname⟩ := (List.eq_nil_or_concat' t.name).resolve_left t.isTypeName_name.1
    have hc : c ∉ ['.', ']'] := by
      have := (t.isTypeName_name.2 c (by simp [hname])).2
      simp only [List.mem_cons, List.not_mem_nil, or_false, not_or] at this ⊢
      exact ⟨this.1, this.2.2.2⟩
    rcases t.qualified_cases with h | ⟨package, h⟩
    · exact ⟨front, c, by rw [h, hgap, hname, List.append_nil], hc⟩
    · exact ⟨package ++ '.' :: front, c, by simp [h, hgap, hname], hc⟩
  · have hc : isBlank c = true := t.gap_blank c (by simp [hgap])
    refine ⟨t.qualified ++ front, c, by simp [hgap], ?_⟩
    simp only [List.mem_cons, List.not_mem_nil, or_false, not_or]
    exact ⟨ne_of_blank hc (by decide), ne_of_blank hc (by decide)⟩

theorem trimList_front : trimList (t.qualified ++ t.gap) = t.qualified := by
  rw [trimList_append_blanks _ t.gap_blank]
  exact trimList_eq_self (fun c hc => t.not_blank_of_mem_qualified (List.mem_of_mem_head? hc))
    fun c hc => t.not_blank_of_mem_qualified (List.mem_of_getLast? hc)

theorem lastSegmentList_qualified : lastSegmentList t.qualified = t.name := by
  rcases t.qualified_cases with h | ⟨front, h⟩
  · rw [h, lastSegmentList_of_not_point t.not_point]
  · rw [h, lastSegmentList_append front t.not_point]

/-- What stands before type arguments, or all of the text if there are none. -/
def outer : List Char := t.qualified ++ t.gap ++ t.bareDimensions.flatMap Brackets.chars

theorem takeWhile_chars : t.chars.takeWhile (· != '<') = t.outer := by
  have hfront : ∀ c ∈ t.qualified ++ t.gap, (c != '<') = true := by
    intro c hc
    rw [bne_iff_ne]
    rintro rfl
    rcases List.mem_append.mp hc with hc | hc
    · exact t.not_mem_qualified (by decide) hc
    · exact t.not_mem_gap (by decide) hc
  have hbrackets : ∀ c ∈ t.dimensions.flatMap Brackets.chars, (c != '<') = true := by
    intro c hc
    rw [bne_iff_ne]
    rintro rfl
    obtain ⟨b, -, hb⟩ := List.mem_flatMap.mp hc
    exact b.not_mem_chars (by decide) (by decide) hb
  rw [chars, argumentChars, outer, bareDimensions]
  cases t.arguments with
  | none =>
    rw [List.append_nil, if_neg (by simp)]
    exact List.takeWhile_eq_self_iff.mpr (List.forall_mem_append.mpr ⟨hfront, hbrackets⟩)
  | some a =>
    rw [List.append_assoc (t.qualified ++ t.gap), List.takeWhile_append_of_pos hfront,
      if_pos (by simp)]
    rfl

/-- No points stand at the end of what is before type arguments. -/
theorem dropEndings_points : dropEndings ['.', '.', '.'] t.outer = t.outer := by
  suffices h : ∃ front c, t.outer = front ++ [c] ∧ c ≠ '.' by
    obtain ⟨front, c, h, hc⟩ := h
    rw [h]
    exact dropEndings_of_not_suffix (not_suffix_concat ['.', '.'] front hc)
  obtain ⟨front, c, hfront, hc⟩ := t.exists_concat_front
  rw [outer, hfront]
  rcases List.eq_nil_or_concat' t.bareDimensions with h | ⟨bs, b, h⟩
  · exact ⟨front, c, by simp [h], fun he => hc (by simp [he])⟩
  · obtain ⟨front', c', hb⟩ := b.exists_concat
    refine ⟨front ++ [c] ++ bs.flatMap Brackets.chars ++ front', c', by simp [h, hb], ?_⟩
    rintro rfl
    have hmem : '.' ∈ b.chars := by simp [hb]
    exact b.not_mem_chars (by decide) (by decide) hmem

/-- The brackets are dropped from the end if there are no blanks in them or after them. -/
theorem dropEndings_outer :
    dropEndings ['[', ']'] t.outer = t.qualified ++ t.gap ∧ t.Tight ∨
      ¬t.Tight ∧ ∃ front after, Blanks after ∧
        dropEndings ['[', ']'] t.outer = front ++ ']' :: after := by
  obtain ⟨front, c, hfront, hc⟩ := t.exists_concat_front
  refine dropEndings_brackets ?_ t.bareDimensions
  rw [hfront]
  exact not_suffix_concat ['['] front fun h => hc (by simp [h])

theorem simpleTypeNameList_chars : simpleTypeNameList t.chars =
    lastSegmentList (trimList (dropEndings ['[', ']'] t.outer)) := by
  rw [simpleTypeNameList, takeWhile_chars, dropEndings_points]

/-- **The simple name of a type that is spelled tightly is that of its element.** -/
theorem simpleTypeNameList_tight (h : t.Tight) : simpleTypeNameList t.chars = t.name := by
  rcases t.dropEndings_outer with ⟨he, -⟩ | ⟨hnot, -⟩
  · rw [simpleTypeNameList_chars, he, trimList_front, lastSegmentList_qualified]
  · exact absurd h hnot

/-- Otherwise a closing bracket stays in it. -/
theorem mem_simpleTypeNameList (h : ¬t.Tight) : ']' ∈ simpleTypeNameList t.chars := by
  rcases t.dropEndings_outer with ⟨-, ht⟩ | ⟨-, front, after, hafter, he⟩
  · exact absurd ht h
  · rw [simpleTypeNameList_chars, he, ← List.singleton_append, ← List.append_assoc,
      trimList_append_blanks _ hafter, trimList_concat front (by decide), lastSegmentList,
      List.reverse_concat, List.takeWhile_cons_of_pos (by decide), List.reverse_cons]
    exact List.mem_concat_self

end TypeSpelling

theorem not_mem_of_mem_valueTypes {s : String} (h : s ∈ valueTypes) : ']' ∉ s.toList := by
  revert s
  decide +kernel

/-- **A type holds plain values by its text exactly if its element does and it is spelled
tightly.** -/
theorem isValueType_iff (t : TypeSpelling) :
    isValueType t.text = true ↔ t.element ∈ valueTypes ∧ t.Tight := by
  have hname : simpleTypeName t.text = String.ofList (simpleTypeNameList t.chars) := by
    rw [simpleTypeName, TypeSpelling.text, String.toList_ofList]
  rw [isValueType, List.contains_iff_mem, hname]
  by_cases h : t.Tight
  · rw [t.simpleTypeNameList_tight h, and_iff_left h, TypeSpelling.element]
  · refine iff_of_false (fun hmem => ?_) fun hboth => h hboth.2
    have := not_mem_of_mem_valueTypes hmem
    rw [String.toList_ofList] at this
    exact this (t.mem_simpleTypeNameList h)

/-! ### Fields -/

/-- A field, with the spelling of its type. -/
structure SpelledField where
  name : String
  type : TypeSpelling
  visibility : Visibility

namespace SpelledField

def field (f : SpelledField) : Field := ⟨f.name, f.type.text, f.visibility⟩

/-- The mock that the field is replaced by. -/
def target (f : SpelledField) : MockTarget := ⟨f.name, f.type.text⟩

/-- The field holds plain values, or arrays of them. -/
def HoldsValues (f : SpelledField) : Prop := f.type.element ∈ valueTypes

instance (f : SpelledField) : Decidable f.HoldsValues :=
  inferInstanceAs (Decidable (_ ∈ valueTypes))

end SpelledField

/-- Facts about a type with these fields, for which mocks are looked for. -/
structure Mockable (fields : List SpelledField) (facts : SourceFacts) : Prop where
  fields : facts.fields = fields.map (·.field)
  stereotype : facts.stereotype = .service ∨ facts.stereotype = .plain

/-- Fields are judged by the types of their elements, however these are spelled. -/
structure JudgedByElement (fields : List SpelledField) : Prop where
  each : ∀ f ∈ fields, isValueType f.type.text = true ↔ f.HoldsValues
  /-- The mocks are for all fields that hold no plain values, in order. -/
  mocks : ∀ facts, Mockable fields facts → (classify facts).mockTargets =
    (fields.filter fun f => ¬f.HoldsValues).map (·.target)

/-- Where mocks are looked for, all are targets that are found. -/
theorem Mockable.classify_mockTargets {fields : List SpelledField} {facts : SourceFacts}
    (h : Mockable fields facts) : (classify facts).mockTargets = mockTargetsOf facts := by
  rcases h.stereotype with hs | hs
  · simp only [classify, hs, Strategy.mockTargets]
  · simp only [classify, hs]
    split
    · rfl
    · rename_i hnone
      simp only [Bool.or_eq_true, Bool.not_eq_true', not_or, Bool.not_eq_false,
        List.isEmpty_iff] at hnone
      rw [hnone.1]
      rfl

/-- The mocks of a type are for the fields that hold no plain values or are not spelled tightly. -/
theorem Mockable.mockTargets {fields : List SpelledField} {facts : SourceFacts}
    (h : Mockable fields facts) : (classify facts).mockTargets =
      (fields.filter fun f => ¬(f.HoldsValues ∧ f.type.Tight)).map (·.target) := by
  have htargets : mockTargetsOf facts =
      (fields.filter fun f => ¬(f.HoldsValues ∧ f.type.Tight)).map (·.target) := by
    rw [mockTargetsOf, h.fields, List.filter_map, List.map_map]
    refine congrArg (List.map SpelledField.target) (List.filter_congr fun f _ => ?_)
    have hvalue : isValueType f.field.typeName = decide (f.HoldsValues ∧ f.type.Tight) := by
      rw [Bool.eq_iff_iff, decide_eq_true_iff]
      exact isValueType_iff f.type
    rw [Function.comp_apply, hvalue, decide_not]
  rw [h.classify_mockTargets, htargets]

/-- **Fields are judged by the types of their elements exactly if those that hold plain values are
spelled tightly.** In any case the mocks are for fields, in order, and for all that hold no plain
values. -/
theorem judgedByElement_iff (fields : List SpelledField) :
    (JudgedByElement fields ↔ ∀ f ∈ fields, f.HoldsValues → f.type.Tight) ∧
      ∀ facts, Mockable fields facts → (classify facts).mockTargets =
        (fields.filter fun f => ¬(f.HoldsValues ∧ f.type.Tight)).map (·.target) := by
  refine ⟨⟨fun h f hf hv => ((isValueType_iff f.type).mp ((h.each f hf).mpr hv)).2, fun h => ?_⟩,
    fun facts hfacts => hfacts.mockTargets⟩
  constructor
  case each =>
    intro f hf
    rw [isValueType_iff]
    exact and_iff_left_of_imp (h f hf)
  case mocks =>
    intro facts hfacts
    rw [hfacts.mockTargets]
    refine congrArg (List.map SpelledField.target) (List.filter_congr fun f hf => ?_)
    rw [decide_eq_decide]
    exact not_congr (and_iff_left_of_imp (h f hf))

/-- A blank between the brackets of two dimensions makes a mock of a field that holds numbers. -/
theorem not_judgedByElement_spaced :
    let source := "class Grid \x7b private int[] [] cells; public int size() \x7b return 0; \x7d \x7d"
    let cells : SpelledField :=
      { name := "cells", visibility := .hidden,
        type :=
          { name := ['i', 'n', 't'], dimensions := [⟨[], [' '], by decide⟩, ⟨[], [], by decide⟩] } }
    (Java.analyze source).fields = [cells.field] ∧ cells.HoldsValues ∧
      classify (Java.analyze source) = .mock [cells.target] ∧ ¬JudgedByElement [cells] := by
  intro source cells
  have hfields : (Java.analyze source).fields = [cells.field] ∧
      classify (Java.analyze source) = .mock [cells.target] := by decide +kernel
  have hvalues : cells.HoldsValues := by decide +kernel
  have htext : isValueType cells.type.text = false := by decide +kernel
  refine ⟨hfields.1, hvalues, hfields.2, fun h => ?_⟩
  have := (h.each cells List.mem_cons_self).mpr hvalues
  rw [htext] at this
  cases this

end Testsmith
