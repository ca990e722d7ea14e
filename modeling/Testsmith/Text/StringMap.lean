/-
# Maps from texts in order

A finite map whose keys are strings, held as pairs in increasing order of the keys.

Key definitions: `StringMap`, `StringMap.get?`, `StringMap.insert`.
Key theorems: `StringMap.get?_insert_self`, `StringMap.get?_insert_of_ne`,
`StringMap.get?_eq_some_iff`.
-/

namespace Testsmith

/-- A map from strings, in increasing order of the keys. -/
structure StringMap (α : Type) where
  toList : List (String × α)
  sorted : toList.Pairwise (·.1 < ·.1)

namespace StringMap

variable {α : Type}

/-- Puts a pair in its place in an increasing list, instead of one with the same key. -/
def insertList (k : String) (v : α) : List (String × α) → List (String × α)
  | [] => [(k, v)]
  | p :: ps =>
    if k < p.1 then (k, v) :: p :: ps
    else if k = p.1 then (k, v) :: ps
    else p :: insertList k v ps

theorem fst_of_mem_insertList {k : String} {v : α} {p : String × α} {l : List (String × α)}
    (h : p ∈ insertList k v l) : p.1 = k ∨ p ∈ l := by
  induction l with
  | nil => simp_all [insertList]
  | cons q qs ih =>
    simp only [insertList] at h
    split at h
    · rcases List.mem_cons.1 h with rfl | h
      · exact .inl rfl
      · exact .inr h
    · split at h
      · rcases List.mem_cons.1 h with rfl | h
        · exact .inl rfl
        · exact .inr (List.mem_cons_of_mem _ h)
      · rcases List.mem_cons.1 h with rfl | h
        · exact .inr List.mem_cons_self
        · exact (ih h).imp_right (List.mem_cons_of_mem _)

theorem sorted_insertList {k : String} {v : α} {l : List (String × α)}
    (h : l.Pairwise (·.1 < ·.1)) : (insertList k v l).Pairwise (·.1 < ·.1) := by
  induction l with
  | nil => simp [insertList]
  | cons p ps ih =>
    simp only [insertList]
    rw [List.pairwise_cons] at h
    split
    case isTrue hk =>
      refine List.pairwise_cons.2 ⟨fun a ha => ?_, List.pairwise_cons.2 h⟩
      rcases List.mem_cons.1 ha with rfl | ha
      · exact hk
      · exact String.lt_trans hk (h.1 a ha)
    case isFalse hk =>
      split
      case isTrue he => exact List.pairwise_cons.2 ⟨fun a ha => he ▸ h.1 a ha, h.2⟩
      case isFalse hne =>
        refine List.pairwise_cons.2 ⟨fun a ha => ?_, ih h.2⟩
        rcases fst_of_mem_insertList ha with hak | ha
        · rw [hak]
          exact String.not_le.1 fun hle => hne (String.le_antisymm (String.not_lt.1 hk) hle).symm
        · exact h.1 a ha

def empty : StringMap α := ⟨[], List.Pairwise.nil⟩

instance : EmptyCollection (StringMap α) := ⟨empty⟩

instance : Inhabited (StringMap α) := ⟨empty⟩

/-- The map with the value for the key, instead of any it had. -/
def insert (m : StringMap α) (k : String) (v : α) : StringMap α :=
  ⟨insertList k v m.toList, sorted_insertList m.sorted⟩

/-- The value for a key. -/
def get? (m : StringMap α) (k : String) : Option α := m.toList.lookup k

def size (m : StringMap α) : Nat := m.toList.length

def keys (m : StringMap α) : List String := m.toList.map (·.1)

def values (m : StringMap α) : List α := m.toList.map (·.2)

/-! ### Laws -/

@[simp] theorem get?_empty {k : String} : (∅ : StringMap α).get? k = none := rfl

theorem lookup_insertList {j k : String} {v : α} {l : List (String × α)} :
    (insertList k v l).lookup j = if j = k then some v else l.lookup j := by
  induction l with
  | nil => grind [insertList]
  | cons p ps ih =>
    obtain ⟨pk, pv⟩ := p
    grind [insertList]

@[simp] theorem get?_insert_self {m : StringMap α} {k : String} {v : α} :
    (m.insert k v).get? k = some v := by
  simp [get?, insert, lookup_insertList]

theorem get?_insert_of_ne {m : StringMap α} {j k : String} {v : α} (h : j ≠ k) :
    (m.insert k v).get? j = m.get? j := by
  simp [get?, insert, lookup_insertList, h]

/-- A key is held once. -/
theorem get?_eq_some_iff {m : StringMap α} {k : String} {v : α} :
    m.get? k = some v ↔ (k, v) ∈ m.toList := by
  rw [get?, List.lookup_eq_some_iff]
  constructor
  · rintro ⟨before, after, heq, -⟩
    rw [heq]
    exact List.mem_append_right _ List.mem_cons_self
  · intro h
    obtain ⟨before, after, heq⟩ := List.append_of_mem h
    have hsorted := m.sorted
    rw [heq, List.pairwise_append] at hsorted
    refine ⟨before, after, heq, fun p hp => ?_⟩
    have hlt : p.1 < k := hsorted.2.2 p hp (k, v) List.mem_cons_self
    rw [bne_iff_ne]
    rintro rfl
    exact String.lt_irrefl _ hlt

theorem mem_keys_iff {m : StringMap α} {k : String} : k ∈ m.keys ↔ (m.get? k).isSome := by
  rw [keys, List.mem_map, Option.isSome_iff_exists]
  constructor
  · rintro ⟨⟨_, v⟩, hmem, rfl⟩
    exact ⟨v, get?_eq_some_iff.mpr hmem⟩
  · rintro ⟨v, hv⟩
    exact ⟨(k, v), get?_eq_some_iff.mp hv, rfl⟩

theorem mem_values_iff {m : StringMap α} {v : α} : v ∈ m.values ↔ ∃ k, m.get? k = some v := by
  rw [values, List.mem_map]
  constructor
  · rintro ⟨⟨k, _⟩, hmem, rfl⟩
    exact ⟨k, get?_eq_some_iff.mpr hmem⟩
  · rintro ⟨k, hk⟩
    exact ⟨(k, v), get?_eq_some_iff.mp hk, rfl⟩

theorem keys_nodup (m : StringMap α) : m.keys.Nodup :=
  List.pairwise_map.mpr (m.sorted.imp fun {p q} hlt (heq : p.1 = q.1) =>
    String.lt_irrefl q.1 (heq ▸ hlt))

end StringMap

end Testsmith
