/-
# Accessors and overloads

Of the methods with one name only the first is kept (`firstOfEachName`). Whether a method that is
shaped as those of a data holder is a getter or a setter is told by its name (`isGetter_of_name`,
`isSetter_of_name`), so that accessors have a getter and a setter among the first of each name if
they have them at all. The first of each name are the methods of a data holder exactly when all
methods are, unless some method hides an overload that is not (`Shadowed`).

Key definitions: `Shadowed`.
Key theorems: `isGetter_of_name`, `firstOfEachName_append`, `isAccessorOnly_firstOfEachName`,
`isAccessorOnly_of_shadowed`.
-/
import Testsmith.Java.Facts

namespace Testsmith

/-! ### Names of accessors -/

theorem startsWith_of_isAccessorName {verb name : String} (h : isAccessorName verb name = true) :
    verb.toList <+: name.toList := by
  rw [isAccessorName] at h
  split at h
  · rw [Bool.and_eq_true] at h
    exact String.startsWith_string_iff.mp h.1
  · cases h

/-- No name is that of a getter and that of a setter. -/
theorem not_setName {verb name : String} (hverb : verb = "get" ∨ verb = "is")
    (h : isAccessorName verb name = true) : isAccessorName "set" name = false := by
  rw [Bool.eq_false_iff]
  intro hset
  have hread := startsWith_of_isAccessorName h
  have hwrite := startsWith_of_isAccessorName hset
  rcases hverb with rfl | rfl
  · cases List.prefix_of_prefix_length_le hread hwrite (by decide) |>.eq_of_length (by decide)
  · have hle := List.prefix_of_prefix_length_le hread hwrite (by decide)
    revert hle
    decide

namespace Method

/-- The name is that of a getter. -/
def HasGetterName (m : Method) : Prop :=
  isAccessorName "get" m.name = true ∨ isAccessorName "is" m.name = true

theorem IsGetter.name {m : Method} (h : m.isGetter = true) : m.HasGetterName := by
  rw [isGetter, Bool.and_eq_true] at h
  obtain ⟨-, h⟩ := h
  split at h
  · rename_i hget
    exact Or.inl hget
  · rw [Bool.and_eq_true] at h
    exact Or.inr h.1

theorem not_isSetter_of_name {m : Method} (h : m.HasGetterName) : m.isSetter = false := by
  have hset : isAccessorName "set" m.name = false := by
    rcases h with h | h
    · exact not_setName (Or.inl rfl) h
    · exact not_setName (Or.inr rfl) h
  rw [isSetter, hset, Bool.false_and]

/-- The names of the methods that every object has are no names of accessors. -/
theorem not_isObjectMethod {m : Method} {verb : String} (hverb : verb ∈ ["get", "is", "set"])
    (h : isAccessorName verb m.name = true) : m.isObjectMethod = false := by
  rw [Bool.eq_false_iff]
  intro hobject
  rw [isObjectMethod, List.contains_iff_mem] at hobject
  have hall : ∀ name ∈ ["toString", "equals", "hashCode"], ∀ verb ∈ ["get", "is", "set"],
      isAccessorName verb name = false := by decide +kernel
  rw [hall m.name hobject verb hverb] at h
  cases h

/-- **Of the accessors with the name of a getter all are getters.** -/
theorem isGetter_of_name {m g : Method} (hname : m.name = g.name) (hg : g.isGetter = true)
    (hm : m.isAccessorShaped = true) : m.isGetter = true := by
  have hget : m.HasGetterName := by
    rw [HasGetterName, hname]
    exact IsGetter.name hg
  have hobject : m.isObjectMethod = false := by
    rcases hget with h | h
    · exact not_isObjectMethod (by simp) h
    · exact not_isObjectMethod (by simp) h
  rwa [isAccessorShaped, not_isSetter_of_name hget, hobject, Bool.or_false, Bool.or_false] at hm

/-- Of the accessors with the name of a setter all are setters. -/
theorem isSetter_of_name {m w : Method} (hname : m.name = w.name) (hw : w.isSetter = true)
    (hm : m.isAccessorShaped = true) : m.isSetter = true := by
  have hset : isAccessorName "set" m.name = true := by
    rw [isSetter, Bool.and_eq_true, ← hname] at hw
    exact hw.1
  have hgetter : m.isGetter = false := by
    rw [Bool.eq_false_iff]
    intro hg
    rcases IsGetter.name hg with h | h
    · rw [not_setName (Or.inl rfl) h] at hset
      cases hset
    · rw [not_setName (Or.inr rfl) h] at hset
      cases hset
  rwa [isAccessorShaped, hgetter, not_isObjectMethod (by simp) hset, Bool.false_or,
    Bool.or_false] at hm

end Method

namespace Java

/-! ### The first of each name -/

section
variable {found ms : List Method}

/-- Takes up the methods with a name that none so far has. -/
def takeNew (found ms : List Method) : List Method :=
  ms.foldl (fun found m => if found.any (·.name == m.name) then found else found ++ [m]) found

theorem firstOfEachName_eq (ms : List Method) : firstOfEachName ms = takeNew [] ms := rfl

theorem takeNew_append (found as bs : List Method) :
    takeNew found (as ++ bs) = takeNew (takeNew found as) bs := List.foldl_append

/-- What is taken up is a method of the list, and every name in the list is taken up. -/
theorem takeNew_spec : ∀ (ms found : List Method),
    (∀ m ∈ takeNew found ms, m ∈ found ∨ m ∈ ms) ∧ (∀ m ∈ found, m ∈ takeNew found ms) ∧
      ∀ m ∈ ms, ∃ a ∈ takeNew found ms, a.name = m.name
  | [], found => ⟨fun m hm => Or.inl hm, fun m hm => hm, by simp⟩
  | m :: ms, found => by
    rw [takeNew, List.foldl_cons]
    by_cases hm : found.any (·.name == m.name) = true
    · rw [if_pos hm]
      obtain ⟨hfrom, hkept, hall⟩ := takeNew_spec ms found
      obtain ⟨a, ha, hname⟩ := List.any_eq_true.mp hm
      refine ⟨fun x hx => (hfrom x hx).imp_right (List.mem_cons_of_mem _), hkept, ?_⟩
      rw [List.forall_mem_cons]
      exact ⟨⟨a, hkept a ha, by simpa using hname⟩, hall⟩
    · rw [if_neg hm]
      obtain ⟨hfrom, hkept, hall⟩ := takeNew_spec ms (found ++ [m])
      refine ⟨fun x hx => ?_, fun x hx => hkept x (List.mem_append_left _ hx), ?_⟩
      · rcases hfrom x hx with hx | hx
        · rcases List.mem_append.mp hx with hx | hx
          · exact Or.inl hx
          · rw [List.mem_singleton.mp hx]
            exact Or.inr List.mem_cons_self
        · exact Or.inr (List.mem_cons_of_mem _ hx)
      · rw [List.forall_mem_cons]
        exact ⟨⟨m, hkept m (List.mem_append_right _ (List.mem_singleton_self m)), rfl⟩, hall⟩

/-- Nothing is taken up when all names are taken up already. -/
theorem takeNew_eq_self (h : ∀ m ∈ ms, ∃ a ∈ found, a.name = m.name) :
    takeNew found ms = found := by
  induction ms with
  | nil => rfl
  | cons m ms ih =>
    rw [List.forall_mem_cons] at h
    obtain ⟨⟨a, ha, hname⟩, hms⟩ := h
    have hany : found.any (·.name == m.name) = true :=
      List.any_eq_true.mpr ⟨a, ha, by simpa using hname⟩
    rw [takeNew, List.foldl_cons, if_pos hany]
    exact ih hms

theorem mem_of_mem_firstOfEachName {m : Method} (h : m ∈ firstOfEachName ms) : m ∈ ms :=
  ((takeNew_spec ms []).1 m h).resolve_left List.not_mem_nil

theorem exists_mem_firstOfEachName {m : Method} (h : m ∈ ms) :
    ∃ a ∈ firstOfEachName ms, a.name = m.name :=
  (takeNew_spec ms []).2.2 m h

/-- Methods with names that are there before count for nothing. -/
theorem firstOfEachName_append {as bs : List Method} (h : ∀ b ∈ bs, ∃ a ∈ as, a.name = b.name) :
    firstOfEachName (as ++ bs) = firstOfEachName as := by
  rw [firstOfEachName_eq, takeNew_append]
  refine takeNew_eq_self fun b hb => ?_
  obtain ⟨a, ha, hname⟩ := h b hb
  obtain ⟨a', ha', hname'⟩ := exists_mem_firstOfEachName ha
  exact ⟨a', ha', hname'.trans hname⟩

end

/-! ### Methods of a data holder -/

theorem isAccessorOnly_iff {ms : List Method} : isAccessorOnly ms = true ↔
    (∀ m ∈ ms, m.isAccessorShaped = true) ∧ (∃ m ∈ ms, m.isGetter = true) ∧
      ∃ m ∈ ms, m.isSetter = true := by
  simp only [isAccessorOnly, Bool.and_eq_true, List.all_eq_true, List.any_eq_true,
    Bool.not_eq_true', List.isEmpty_eq_false_iff, and_assoc]
  refine and_iff_right_of_imp ?_
  rintro ⟨-, ⟨m, hm, -⟩, -⟩
  exact List.ne_nil_of_mem hm

theorem isAccessorOnly_perm {ms ns : List Method} (h : ms.Perm ns) :
    isAccessorOnly ms = isAccessorOnly ns := by
  rw [Bool.eq_iff_iff, isAccessorOnly_iff, isAccessorOnly_iff]
  simp only [h.mem_iff]

/-- The first of each name of accessors are the methods of a data holder if all are. -/
theorem isAccessorOnly_first {ms : List Method} (h : isAccessorOnly ms = true) :
    isAccessorOnly (firstOfEachName ms) = true := by
  rw [isAccessorOnly_iff] at h ⊢
  obtain ⟨hshaped, ⟨g, hg, hgetter⟩, ⟨w, hw, hsetter⟩⟩ := h
  have hfirst : ∀ m ∈ firstOfEachName ms, m.isAccessorShaped = true :=
    fun m hm => hshaped m (mem_of_mem_firstOfEachName hm)
  obtain ⟨a, ha, hga⟩ := exists_mem_firstOfEachName hg
  obtain ⟨b, hb, hwb⟩ := exists_mem_firstOfEachName hw
  exact ⟨hfirst, ⟨a, ha, Method.isGetter_of_name hga hgetter (hfirst a ha)⟩,
    ⟨b, hb, Method.isSetter_of_name hwb hsetter (hfirst b hb)⟩⟩

/-- Every method has the name of an accessor among the methods, a getter and a setter are among
them, and yet not all are accessors: each that is not is hidden where the accessor comes first. -/
structure Shadowed (ms : List Method) : Prop where
  shaped : ∀ m ∈ ms, ∃ a ∈ ms, a.name = m.name ∧ a.isAccessorShaped = true
  getter : ∃ m ∈ ms, m.isGetter = true
  setter : ∃ m ∈ ms, m.isSetter = true
  other : ∃ m ∈ ms, m.isAccessorShaped = false

theorem shadowed_perm {ms ns : List Method} (h : ms.Perm ns) (hs : Shadowed ms) : Shadowed ns := by
  obtain ⟨hshaped, hgetter, hsetter, hother⟩ := hs
  simp only [h.mem_iff] at hshaped hgetter hsetter hother
  exact ⟨hshaped, hgetter, hsetter, hother⟩

/-- **Where no overload is hidden, the first of each name tell what all methods do.** -/
theorem isAccessorOnly_firstOfEachName {ms : List Method} (h : ¬Shadowed ms) :
    isAccessorOnly (firstOfEachName ms) = isAccessorOnly ms := by
  rw [Bool.eq_iff_iff]
  refine ⟨fun hfirst => ?_, isAccessorOnly_first⟩
  rw [isAccessorOnly_iff] at hfirst ⊢
  obtain ⟨hshaped, ⟨g, hg, hgetter⟩, ⟨w, hw, hsetter⟩⟩ := hfirst
  have hget := mem_of_mem_firstOfEachName hg
  have hset := mem_of_mem_firstOfEachName hw
  refine ⟨fun m hm => ?_, ⟨g, hget, hgetter⟩, ⟨w, hset, hsetter⟩⟩
  cases hm' : m.isAccessorShaped with
  | true => rfl
  | false =>
    refine absurd ⟨fun n hn => ?_, ⟨g, hget, hgetter⟩, ⟨w, hset, hsetter⟩, m, hm, hm'⟩ h
    obtain ⟨a, ha, hname⟩ := exists_mem_firstOfEachName hn
    exact ⟨a, mem_of_mem_firstOfEachName ha, hname, hshaped a ha⟩

/-- **Where an overload is hidden, the methods are those of a data holder when the accessors come
first**, though not all of them are. -/
theorem isAccessorOnly_of_shadowed {ms : List Method} (h : Shadowed ms) :
    isAccessorOnly (firstOfEachName (ms.filter (·.isAccessorShaped) ++
        ms.filter fun m => !m.isAccessorShaped)) = true ∧
      isAccessorOnly ms = false := by
  obtain ⟨hshaped, ⟨g, hg, hgetter⟩, ⟨w, hw, hsetter⟩, ⟨m, hm, hother⟩⟩ := h
  have hnames : ∀ b ∈ ms.filter fun m => !m.isAccessorShaped,
      ∃ a ∈ ms.filter (·.isAccessorShaped), a.name = b.name := by
    intro b hb
    obtain ⟨a, ha, hname, hshape⟩ := hshaped b (List.mem_filter.mp hb).1
    exact ⟨a, List.mem_filter.mpr ⟨ha, hshape⟩, hname⟩
  have hgs : g.isAccessorShaped = true := by rw [Method.isAccessorShaped, hgetter]; rfl
  have hws : w.isAccessorShaped = true := by rw [Method.isAccessorShaped, hsetter]; simp
  constructor
  · rw [firstOfEachName_append hnames]
    refine isAccessorOnly_first (isAccessorOnly_iff.mpr ⟨?_, ?_, ?_⟩)
    · exact fun a ha => (List.mem_filter.mp ha).2
    · exact ⟨g, List.mem_filter.mpr ⟨hg, hgs⟩, hgetter⟩
    · exact ⟨w, List.mem_filter.mpr ⟨hw, hws⟩, hsetter⟩
  · rw [Bool.eq_false_iff]
    intro hall
    rw [(isAccessorOnly_iff.mp hall).1 m hm] at hother
    cases hother

end Java
end Testsmith
