/-
# Joining readings

Readings that have come to the same state at the same place of the text are joined: the links of the
one are given to the other. Since a place tells what has been read, and what is left, the links
spell as much from their new vertex as from the old one (`Stack.sound_addLink`, `Stack.sound_join`).

Key theorems: `Stack.sound_addLink`, `Stack.sound_join`, `Stack.sound_joinFirst`.
-/
import Testsmith.Proofs.Parsing.Vertices

namespace Testsmith.Parsing

variable {a : Automaton} {text : List Char}

namespace Stack

variable {s s' : Stack} {i v w : Nat} {l : Link}

/-! ### Links -/

@[simp]
theorem size_modifyVertex (s : Stack) (i : Nat) (f : Vertex → Vertex) :
    (s.modifyVertex i f).vertices.size = s.vertices.size :=
  Array.size_modify

theorem grows_modifyVertex {f : Vertex → Vertex} (h : (s.vertex i).Keeps (f (s.vertex i))) :
    s.Grows (s.modifyVertex i f) := by
  refine ⟨by simp, fun j hj => ?_⟩
  by_cases hij : i = j
  · subst hij
    rw [vertex_modify_self f hj]
    exact h
  · rw [vertex_modify_ne f hij]
    exact .refl _

/-- A vertex may be given other links, if they span what they have to. -/
theorem sound_modifyVertex {f : Vertex → Vertex} (hs : s.Sound a text)
    (hkeeps : (s.vertex i).Keeps (f (s.vertex i)))
    (hlinks : ∀ l ∈ (f (s.vertex i)).links, l ∈ (s.vertex i).links ∨
      l.target < s.vertices.size ∧ Spans a (s.vertex i) (s.vertex l.target) l.tree)
    (hbottom : (f (s.vertex i)).links = [] → (s.vertex i).links = []) :
    (s.modifyVertex i f).Sound a text := by
  have hg := grows_modifyVertex hkeeps
  have hlink {j : Nat} (hj : j < s.vertices.size) {l : Link}
      (hl : l ∈ ((s.modifyVertex i f).vertex j).links) :
      l.target < s.vertices.size ∧ Spans a (s.vertex j) (s.vertex l.target) l.tree := by
    have hold (hl : l ∈ (s.vertex j).links) := And.intro (hs.below j hj l hl) (hs.spans j hj l hl)
    by_cases hij : i = j
    · subst hij
      rw [vertex_modify_self f hj] at hl
      exact (hlinks l hl).elim hold id
    · rw [vertex_modify_ne f hij] at hl
      exact hold hl
  refine ⟨by simpa using hs.begun, fun j hj => ?_, fun j hj l hl => ?_, fun j hj l hl => ?_,
    fun j hj hl => ?_, fun hd hhd => (hs.seated hd hhd).grows hg⟩
  all_goals rw [size_modifyVertex] at hj
  · exact (hs.stands j hj).keeps (hg.keeps j hj)
  · rw [size_modifyVertex]
    exact (hlink hj hl).1
  · obtain ⟨htarget, hspans⟩ := hlink hj hl
    exact Vertex.Spans.keeps hspans (hg.keeps j hj) (hg.keeps _ htarget)
  · rw [(hg.keeps j hj).rest]
    refine hs.bottom j hj ?_
    by_cases hij : i = j
    · subst hij
      rw [vertex_modify_self f hj] at hl
      exact hbottom hl
    · rwa [vertex_modify_ne f hij] at hl

/-- Links have been added, and nothing else has changed. -/
structure Linked (a : Automaton) (text : List Char) (s s' : Stack) : Prop extends Grows s s' where
  sound : s'.Sound a text
  heads : s'.heads = s.heads

theorem Linked.refl (hs : s.Sound a text) : s.Linked a text s :=
  ⟨.of_vertices rfl, hs, rfl⟩

theorem Linked.trans {s'' : Stack} (h : s.Linked a text s') (h' : s'.Linked a text s'') :
    s.Linked a text s'' :=
  ⟨h.toGrows.trans h'.toGrows, h'.sound, h'.heads.trans h.heads⟩

/-- Links to vertices of one place are given to another vertex, each in its turn. -/
theorem linked_foldl {step : Stack → Link → Stack} {y : Vertex} :
    ∀ {links : List Link} {s : Stack}, s.Sound a text → i < s.vertices.size →
    (∀ l ∈ links, l.target < s.vertices.size ∧ Spans a y (s.vertex l.target) l.tree) →
    (s.vertex i).Keeps y →
    (∀ {s : Stack} {l : Link}, s.Sound a text → i < s.vertices.size → l.target < s.vertices.size →
      Spans a (s.vertex i) (s.vertex l.target) l.tree → s.Linked a text (step s l)) →
    s.Linked a text (links.foldl step s)
  | [], _, hs, _, _, _, _ => .refl hs
  | l :: links, s, hs, hi, hlinks, hsame, hstep => by
    obtain ⟨htarget, hspans⟩ := hlinks l List.mem_cons_self
    have hfirst := hstep hs hi htarget (Vertex.Spans.keeps hspans hsame.symm (.refl _))
    refine hfirst.trans (linked_foldl hfirst.sound (Nat.lt_of_lt_of_le hi hfirst.size)
      (fun k hk => ?_) ((hfirst.keeps i hi).symm.trans hsame) hstep)
    obtain ⟨hk, hspans⟩ := hlinks k (List.mem_cons_of_mem _ hk)
    exact ⟨Nat.lt_of_lt_of_le hk hfirst.size,
      Vertex.Spans.keeps hspans (.refl _) (hfirst.keeps _ hk)⟩

/-- **A vertex may be given a link that spans what lies below it.** The induction is on how far down
vertices are joined. -/
theorem sound_addLink : ∀ (bound : Nat) {s : Stack} {i : Nat} {l : Link}, s.Sound a text →
    i < s.vertices.size → l.target < s.vertices.size →
    Spans a (s.vertex i) (s.vertex l.target) l.tree → s.Linked a text (addLink s bound i l)
  | 0, _, _, _, hs, _, _, _ => .refl hs
  | bound + 1, s, i, l, hs, hi, htarget, hspans => by
    rw [addLink]
    dsimp only
    split
    · exact .refl hs
    split
    · rename_i k e hmatch
      obtain ⟨k', hfind, hget⟩ := Option.bind_eq_some_iff.mp hmatch
      obtain ⟨e', he, hpair⟩ := Option.map_eq_some_iff.mp hget
      obtain ⟨rfl, rfl⟩ := Prod.mk.inj hpair
      have hmem := List.mem_of_getElem? he
      split
      · rename_i hsame
        split
        · have hkeeps (x : Vertex) : x.Keeps { x with
              links := x.links.set k' { e' with tree := l.tree }
              preference := (s.vertex l.target).preference + preferenceOf l } := ⟨rfl, rfl, rfl⟩
          refine ⟨grows_modifyVertex (hkeeps _), sound_modifyVertex hs (hkeeps _) (fun m hm => ?_)
            (fun hnil => by simpa using hnil), rfl⟩
          rcases List.mem_or_eq_of_mem_set hm with hm | rfl
          · exact Or.inl hm
          · dsimp only
            rw [hsame]
            exact Or.inr ⟨htarget, hspans⟩
        · exact .refl hs
      · rename_i hne
        have halike : alike (s.vertex e'.target) (s.vertex l.target) = true := by
          obtain ⟨hlt, hpred, -⟩ := List.findIdx?_eq_some_iff_getElem.mp hfind
          obtain ⟨_, rfl⟩ := List.getElem?_eq_some_iff.mp he
          simp only [Bool.and_eq_true, Bool.or_eq_true, decide_eq_true_eq] at hpred
          exact hpred.2.resolve_left hne
        have he := hs.below i hi e' hmem
        have hkeeps := Vertex.keeps_of_alike (hs.stands _ he) (hs.stands _ htarget) halike
        have hbelow : s.Linked a text ((s.vertex l.target).links.foldl
            (fun s below => addLink s bound e'.target below) s) := linked_foldl hs he
          (fun m hm => ⟨hs.below _ htarget m hm, hs.spans _ htarget m hm⟩) hkeeps
          (fun hs hi ht hsp => sound_addLink bound hs hi ht hsp)
        refine hbelow.trans ⟨grows_modifyVertex ⟨rfl, rfl, rfl⟩, sound_modifyVertex hbelow.sound
          ⟨rfl, rfl, rfl⟩ (fun m hm => Or.inl hm) id, rfl⟩
    · split
      · exact .refl hs
      · refine ⟨grows_modifyVertex ⟨rfl, rfl, rfl⟩, sound_modifyVertex hs ⟨rfl, rfl, rfl⟩
          (fun m hm => ?_) (fun hnil => (List.append_eq_nil_iff.mp hnil).1), rfl⟩
        rcases List.mem_append.mp hm with hm | hm
        · exact Or.inl hm
        · rw [List.mem_singleton.mp hm]
          exact Or.inr ⟨htarget, hspans⟩

/-! ### Readings -/

/-- **Readings that are joined leave a sound stack**, in which the others are where they were. -/
theorem sound_join (hs : s.Sound a text) (h : s.join? v w = some s') :
    ∃ joined : Stack, joined.Sound a text ∧ Frame s.heads.length s joined ∧
      joined.heads.length = s.heads.length ∧ s' = joined.remove w := by
  rw [join?] at h
  obtain ⟨hcan, h⟩ := Option.ite_none_left_eq_some.mp h
  simp only [Bool.not_eq_true', Bool.not_eq_false, canJoin, Bool.and_eq_true] at hcan
  obtain rfl := Option.some.inj h
  have hv := (hs.head v).vertex
  have hw := (hs.head w).vertex
  have hlinked : s.Linked a text ((s.top w).links.foldl
      (fun r l => addLink r (r.vertices.size + 1) (s.head v).vertex l) s) :=
    linked_foldl hs hv (fun m hm => ⟨hs.below _ hw m hm, hs.spans _ hw m hm⟩)
      (Vertex.keeps_of_alike (hs.stands _ hv) (hs.stands _ hw) hcan.2)
      (fun hs hi ht hsp => sound_addLink _ hs hi ht hsp)
  generalize List.foldl _ s (s.top w).links = r at hlinked ⊢
  have hlength : r.heads.length = s.heads.length := by rw [hlinked.heads]
  have hframe : Frame s.heads.length s r :=
    .of_append hlinked.toGrows (hlinked.heads.trans (List.append_nil _).symm)
  generalize hbase : (if (r.vertex (s.head v).vertex).state = errorState then
    { r.head v with baseCount := (r.vertex (s.head v).vertex).nodeCount } else r.head v) = hd
  have hvertex : hd.vertex = (r.head v).vertex := by
    rw [← hbase]
    split <;> rfl
  have hactivity : hd.activity = (r.head v).activity := by
    rw [← hbase]
    split <;> rfl
  exact ⟨r.setHead v hd, hlinked.sound.rehead hvertex hactivity,
    hframe.trans (hlength ▸ .rehead hvertex hactivity), by simp [hlength], rfl⟩

theorem sound_joinFirst (hs : s.Sound a text) : ∀ {ws : List Nat}, s.joinFirst? v ws = some s' →
    ∃ joined : Stack, joined.Sound a text ∧ Frame s.heads.length s joined ∧
      joined.heads.length = s.heads.length ∧ s' = joined.remove v
  | [], h => by cases h
  | w :: ws, h => by
    rw [joinFirst?] at h
    split at h
    · rename_i hjoin
      exact sound_join hs (Option.some.inj h ▸ hjoin)
    · exact sound_joinFirst hs h

end Stack

end Testsmith.Parsing
