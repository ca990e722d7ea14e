/-
# Stacks that cover the text

A vertex stands where some start of the text ends, and a link leads down over a tree that spells
what lies between (`Spans`). In a sound stack this holds of all vertices and links, so that each way down
to the bottom spells the text that has been read (`Stack.Sound`). Vertices stay where they are; what
changes are the links and the heads (`Stack.Grows`, `Stack.Frame`).

Key definitions: `Subtree.Whole`, `Subtree.Fits`, `Spans`, `Stack.Sound`, `Stack.Level`,
`Stack.Frame`.
Key theorems: `sound_push`, `sound_pushAll`.
-/
import Testsmith.Parsing.Stack
import Testsmith.Proofs.Parsing.Spelling

namespace Testsmith.Parsing

/-! ### Trees between vertices -/

namespace Subtree

/-- The tree is a node that readers see, of no token, and stands where the grammar expects it. -/
structure Whole (a : Automaton) (t : Subtree) : Prop where
  expected : t.isExtra = false
  visible : a.isVisible t.symbol = true
  construct : ∀ token, t.symbol ≠ .token token
  node : ∃ f children, t = .node f children

/-- The tree is that of a token at the start of a text. -/
structure Fits (t : Subtree) (text : List Char) : Prop where
  leaf : ∃ f lead own, t = .leaf f lead own
  measures : t.Measures
  here : t.chars <+: text
  /-- The end comes when all has been read, and is not expected. -/
  ending : t.symbol = .token endToken → t.chars = text ∧ t.isExtra = true

variable {a : Automaton} {t : Subtree} {text : List Char}

theorem Fits.sound (h : t.Fits text) (hne : t.symbol ≠ .error) : t.Sound := by
  obtain ⟨f, lead, own, rfl⟩ := h.leaf
  exact .leaf h.measures hne

theorem Fits.withToken (h : t.Fits text) {token : Nat} (hne : token ≠ endToken) :
    (t.withToken a token).Fits text := by
  obtain ⟨f, lead, own, rfl⟩ := h.leaf
  exact ⟨⟨_, _, _, rfl⟩, h.measures, h.here, fun he => absurd (Symbol.token.inj he) hne⟩

/-- The tree may stand last in a text, above a vertex of a state: it is whole, or it stands behind
one that is. -/
def MayEnd (a : Automaton) (t : Subtree) (below : Nat) : Prop :=
  t.Whole a ∧ t.symbol ≠ .error ∨ t.isExtra = true ∧ below = a.acceptState

/-- What a way down over one link spells. -/
def charsOn : Option Subtree → List Char
  | none => []
  | some t => t.chars

end Subtree

variable {a : Automaton} {text : List Char}

/-- A tree leads from a vertex down to another one. -/
structure Spans (a : Automaton) (x y : Vertex) (tree : Option Subtree) : Prop where
  rest : y.rest = Subtree.charsOn tree ++ x.rest
  sound : ∀ t ∈ tree, t.Sound
  last : x.state = a.acceptState → ∃ t, tree = some t ∧ t.MayEnd a y.state

namespace Vertex

variable {x x' y y' : Vertex} {tree : Option Subtree}

/-- The vertex stands where a start of the text ends. -/
def Stands (text : List Char) (x : Vertex) : Prop :=
  ∃ past, text = past ++ x.rest ∧ x.position = .ofList past

/-- Nothing is changed but links, and what is counted. -/
structure Keeps (x x' : Vertex) : Prop where
  state : x'.state = x.state
  position : x'.position = x.position
  rest : x'.rest = x.rest

theorem Keeps.refl (x : Vertex) : x.Keeps x := ⟨rfl, rfl, rfl⟩

theorem Keeps.trans {x'' : Vertex} (h : x.Keeps x') (h' : x'.Keeps x'') : x.Keeps x'' :=
  ⟨h'.state.trans h.state, h'.position.trans h.position, h'.rest.trans h.rest⟩

theorem Keeps.symm (h : x.Keeps x') : x'.Keeps x := ⟨h.state.symm, h.position.symm, h.rest.symm⟩

theorem Stands.keeps (h : x.Stands text) (hx : x.Keeps x') : x'.Stands text := by
  obtain ⟨past, htext, hpast⟩ := h
  exact ⟨past, by rw [hx.rest, htext], by rw [hx.position, hpast]⟩

theorem Spans.keeps (h : Spans a x y tree) (hx : x.Keeps x') (hy : y.Keeps y') :
    Spans a x' y' tree := by
  refine ⟨by rw [hx.rest, hy.rest, h.rest], h.sound, fun hstate => ?_⟩
  rw [hx.state] at hstate
  rw [hy.state]
  exact h.last hstate

/-- Vertices in the same place of a text differ only in what is below. -/
theorem keeps_of_alike (hx : x.Stands text) (hy : y.Stands text)
    (h : Stack.alike x y = true) : x.Keeps y := by
  simp only [Stack.alike, Bool.and_eq_true, decide_eq_true_eq] at h
  obtain ⟨⟨hstate, hbytes⟩, -⟩ := h
  obtain ⟨past, htext, hpast⟩ := hx
  obtain ⟨past', htext', hpast'⟩ := hy
  have hsame : past' = past := by
    rw [hpast, hpast'] at hbytes
    exact (Extent.eq_of_prefix ⟨_, htext.symm⟩ ⟨_, htext'.symm⟩ hbytes).symm
  refine ⟨hstate.symm, by rw [hpast, hpast', hsame], ?_⟩
  rw [htext, hsame] at htext'
  exact (List.append_cancel_left htext').symm

end Vertex

namespace Stack

variable {s s' s'' : Stack} {u v i j : Nat} {hd : Head}

/-! ### Vertices and heads of a changed stack -/

theorem vertex_eq (h : s'.vertices = s.vertices) (i : Nat) : s'.vertex i = s.vertex i := by
  rw [vertex, vertex, h]

theorem vertex_modify_self (f : Vertex → Vertex) (h : i < s.vertices.size) :
    (s.modifyVertex i f).vertex i = f (s.vertex i) := by
  simp [vertex, modifyVertex, Array.getD, h, Array.getElem_modify_self]

theorem vertex_modify_ne (f : Vertex → Vertex) (h : i ≠ j) :
    (s.modifyVertex i f).vertex j = s.vertex j := by
  simp [vertex, modifyVertex, Array.getD, Array.getElem_modify_of_ne h]

theorem head_of_lt (h : v < s.heads.length) : s.head v = s.heads[v] := by
  rw [head, List.getD_eq_getElem?_getD, List.getElem?_eq_getElem h, Option.getD_some]

theorem head_mem_or (s : Stack) (v : Nat) : s.head v ∈ s.heads ∨ s.head v = default := by
  rcases Nat.lt_or_ge v s.heads.length with h | h
  · exact Or.inl (head_of_lt h ▸ List.getElem_mem h)
  · refine Or.inr ?_
    rw [head, List.getD_eq_getElem?_getD, List.getElem?_eq_none h, Option.getD_none]

@[simp]
theorem length_setHead (s : Stack) (v : Nat) (hd : Head) :
    (s.setHead v hd).heads.length = s.heads.length :=
  List.length_set

theorem head_setHead_self (h : v < s.heads.length) : (s.setHead v hd).head v = hd := by
  rw [head_of_lt (by simpa using h)]
  exact List.getElem_set_self _

theorem head_setHead_ne (h : v ≠ u) : (s.setHead v hd).head u = s.head u := by
  simp only [head, setHead, List.getD_eq_getElem?_getD, List.getElem?_set_ne h]

theorem head_remove_lt (h : u < v) : (s.remove v).head u = s.head u := by
  simp only [head, remove, List.getD_eq_getElem?_getD, List.getElem?_eraseIdx_of_lt h]

theorem head_remove_ge (h : v ≤ u) : (s.remove v).head u = s.head (u + 1) := by
  simp only [head, remove, List.getD_eq_getElem?_getD, List.getElem?_eraseIdx_of_ge h]

theorem length_remove (h : v < s.heads.length) :
    (s.remove v).heads.length = s.heads.length - 1 :=
  List.length_eraseIdx_of_lt h

theorem head_append {new : List Head} (h : s'.heads = s.heads ++ new) (hu : u < s.heads.length) :
    s'.head u = s.head u := by
  simp only [head, h, List.getD_eq_getElem?_getD, List.getElem?_append_left hu]

/-! ### Sound stacks -/

/-- The head is on a vertex, and a token that it is stuck at comes next. -/
structure Seated (s : Stack) (hd : Head) : Prop where
  vertex : hd.vertex < s.vertices.size
  stuck : ∀ t, hd.activity = .stuck t → t.Fits (s.vertex hd.vertex).rest

/-- Vertices stand in the text, and links spell what lies between. -/
structure Sound (a : Automaton) (text : List Char) (s : Stack) : Prop where
  begun : 0 < s.vertices.size
  stands : ∀ i < s.vertices.size, (s.vertex i).Stands text
  below : ∀ i < s.vertices.size, ∀ l ∈ (s.vertex i).links, l.target < s.vertices.size
  spans : ∀ i < s.vertices.size, ∀ l ∈ (s.vertex i).links,
    Spans a (s.vertex i) (s.vertex l.target) l.tree
  bottom : ∀ i < s.vertices.size, (s.vertex i).links = [] → (s.vertex i).rest = text
  seated : ∀ hd ∈ s.heads, s.Seated hd

theorem Seated.of_vertices (h : s.Seated hd) (hs : s'.vertices = s.vertices) : s'.Seated hd :=
  ⟨hs ▸ h.vertex, fun t ht => by rw [vertex_eq hs]; exact h.stuck t ht⟩

theorem sound_ofText (text : List Char) : (ofText text).Sound a text where
  begun := Nat.one_pos
  stands := by
    intro i hi
    obtain rfl : i = 0 := Nat.lt_one_iff.mp hi
    exact ⟨[], rfl, rfl⟩
  below := by
    intro i hi l hl
    obtain rfl : i = 0 := Nat.lt_one_iff.mp hi
    cases hl
  spans := by
    intro i hi l hl
    obtain rfl : i = 0 := Nat.lt_one_iff.mp hi
    cases hl
  bottom := by
    intro i hi _
    obtain rfl : i = 0 := Nat.lt_one_iff.mp hi
    rfl
  seated := by
    intro hd hhd
    obtain rfl := List.mem_singleton.mp hhd
    exact ⟨Nat.one_pos, (by simp)⟩

namespace Sound

variable (h : s.Sound a text)
include h

theorem of_vertices (hs : s'.vertices = s.vertices) (hseated : ∀ hd ∈ s'.heads, s.Seated hd) :
    s'.Sound a text where
  begun := hs ▸ h.begun
  stands i hi := by rw [vertex_eq hs]; exact h.stands i (hs ▸ hi)
  below i hi l hl := by rw [vertex_eq hs] at hl; exact hs ▸ h.below i (hs ▸ hi) l hl
  spans i hi l hl := by
    rw [vertex_eq hs] at hl ⊢
    rw [vertex_eq hs]
    exact h.spans i (hs ▸ hi) l hl
  bottom i hi hl := by rw [vertex_eq hs] at hl ⊢; exact h.bottom i (hs ▸ hi) hl
  seated hd hhd := (hseated hd hhd).of_vertices hs

theorem head (v : Nat) : s.Seated (s.head v) := by
  rcases s.head_mem_or v with hmem | hdefault
  · exact h.seated _ hmem
  · rw [hdefault]
    exact ⟨h.begun, (by simp)⟩

theorem setHead (hseated : s.Seated hd) (v : Nat) : (s.setHead v hd).Sound a text :=
  h.of_vertices rfl fun _ hhd => (List.mem_or_eq_of_mem_set hhd).elim (h.seated _) (· ▸ hseated)

theorem remove (v : Nat) : (s.remove v).Sound a text :=
  h.of_vertices rfl fun _ hhd => h.seated _ (List.mem_of_mem_eraseIdx hhd)

theorem truncate (count : Nat) : (s.truncate count).Sound a text :=
  h.of_vertices rfl fun _ hhd => h.seated _ (List.mem_of_mem_take hhd)

theorem duplicate (v : Nat) : (s.duplicate v).Sound a text := by
  refine h.of_vertices rfl fun hd hhd => (List.mem_append.mp hhd).elim (h.seated hd) fun hhd => ?_
  obtain rfl := List.mem_singleton.mp hhd
  exact ⟨(h.head v).vertex, (h.head v).stuck⟩

theorem rehead (hvertex : hd.vertex = (s.head v).vertex)
    (hactivity : hd.activity = (s.head v).activity) : (s.setHead v hd).Sound a text :=
  h.setHead
    ⟨hvertex ▸ (h.head v).vertex, fun t ht => hvertex ▸ (h.head v).stuck t (hactivity ▸ ht)⟩ v

theorem lowerBase (v : Nat) : (s.lowerBase v).Sound a text :=
  h.rehead rfl rfl

theorem setActivity {activity : Activity}
    (hact : ∀ t, activity = .stuck t → t.Fits (s.top v).rest) :
    (s.setActivity v activity).Sound a text := by
  refine h.setHead ?_ v
  exact ⟨(h.head v).vertex, hact⟩

theorem replaceBy (old new : Nat) : (s.replaceBy old new).Sound a text := by
  rw [Stack.replaceBy]
  split
  · exact h
  · refine (h.setHead ?_ old).remove new
    exact ⟨(h.head new).vertex, (h.head new).stuck⟩

theorem swap (v w : Nat) : (s.swap v w).Sound a text := by
  refine (h.setHead (h.head w) v).setHead ?_ w
  exact (h.head v).of_vertices rfl

end Sound

/-! ### What a change leaves as it is -/

/-- Vertices stay where they are. -/
structure Grows (s s' : Stack) : Prop where
  size : s.vertices.size ≤ s'.vertices.size
  keeps : ∀ i < s.vertices.size, (s.vertex i).Keeps (s'.vertex i)

theorem Grows.of_vertices (h : s'.vertices = s.vertices) : s.Grows s' :=
  ⟨h ▸ Nat.le_refl _, fun i _ => by rw [vertex_eq h]; exact .refl _⟩

theorem Grows.trans (h : s.Grows s') (h' : s'.Grows s'') : s.Grows s'' :=
  ⟨h.size.trans h'.size, fun i hi =>
    (h.keeps i hi).trans (h'.keeps i (Nat.lt_of_lt_of_le hi h.size))⟩

theorem Seated.grows (h : s.Seated hd) (hg : s.Grows s') : s'.Seated hd :=
  ⟨Nat.lt_of_lt_of_le h.vertex hg.size, fun t ht => by
    rw [(hg.keeps _ h.vertex).rest]
    exact h.stuck t ht⟩

/-- Readings before a place are on their vertices, and do what they did. -/
structure Frame (n : Nat) (s s' : Stack) : Prop extends Grows s s' where
  length : n ≤ s'.heads.length
  vertex : ∀ u < n, (s'.head u).vertex = (s.head u).vertex
  activity : ∀ u < n, (s'.head u).activity = (s.head u).activity

namespace Frame

variable {n : Nat}

theorem refl (h : n ≤ s.heads.length) : s.Frame n s :=
  ⟨.of_vertices rfl, h, fun _ _ => rfl, fun _ _ => rfl⟩

theorem trans (h : Frame n s s') (h' : Frame n s' s'') : Frame n s s'' :=
  ⟨h.toGrows.trans h'.toGrows, h'.length, fun u hu => (h'.vertex u hu).trans (h.vertex u hu),
    fun u hu => (h'.activity u hu).trans (h.activity u hu)⟩

theorem mono {m : Nat} (h : Frame n s s') (hm : m ≤ n) : Frame m s s' :=
  ⟨h.toGrows, hm.trans h.length, fun u hu => h.vertex u (Nat.lt_of_lt_of_le hu hm),
    fun u hu => h.activity u (Nat.lt_of_lt_of_le hu hm)⟩

theorem top (h : Frame n s s') (hs : s.Sound a text) (hv : v < n) :
    (s.top v).Keeps (s'.top v) := by
  rw [Stack.top, Stack.top, h.vertex v hv]
  exact h.keeps _ (hs.head v).vertex

theorem of_append {new : List Head} (hg : s.Grows s')
    (hh : s'.heads = s.heads ++ new) : Frame s.heads.length s s' := by
  refine ⟨hg, ?_, fun u hu => ?_, fun u hu => ?_⟩
  · rw [hh, List.length_append]
    exact Nat.le_add_right _ _
  · rw [head_append hh hu]
  · rw [head_append hh hu]

theorem setHead (h : n ≤ s.heads.length) (hd : Head) (hv : n ≤ v) : Frame n s (s.setHead v hd) := by
  have hsame (u : Nat) (hu : u < n) : (s.setHead v hd).head u = s.head u :=
    head_setHead_ne (by omega)
  exact ⟨.of_vertices rfl, by simpa using h, fun u hu => by rw [hsame u hu],
    fun u hu => by rw [hsame u hu]⟩

/-- The head keeps its vertex, and does what it did. -/
theorem rehead (hvertex : hd.vertex = (s.head v).vertex)
    (hactivity : hd.activity = (s.head v).activity) : Frame s.heads.length s (s.setHead v hd) := by
  have hsame (u : Nat) (hu : u < s.heads.length) :
      ((s.setHead v hd).head u).vertex = (s.head u).vertex ∧
        ((s.setHead v hd).head u).activity = (s.head u).activity := by
    by_cases huv : v = u
    · subst huv
      rw [head_setHead_self hu]
      exact ⟨hvertex, hactivity⟩
    · rw [head_setHead_ne huv]
      exact ⟨rfl, rfl⟩
  exact ⟨.of_vertices rfl, by simp, fun u hu => (hsame u hu).1, fun u hu => (hsame u hu).2⟩

theorem lowerBase (s : Stack) (v : Nat) : Frame s.heads.length s (s.lowerBase v) :=
  .rehead rfl rfl

theorem remove (h : n < s.heads.length) (hv : n ≤ v) : Frame n s (s.remove v) := by
  have hsame (u : Nat) (hu : u < n) : (s.remove v).head u = s.head u :=
    head_remove_lt (by omega)
  refine ⟨.of_vertices rfl, ?_, fun u hu => by rw [hsame u hu], fun u hu => by rw [hsame u hu]⟩
  have hlength := List.le_length_eraseIdx s.heads v
  exact (Nat.le_sub_one_of_lt h).trans hlength

end Frame

/-- The reading stands before a text, and is not stuck. -/
structure Level (s : Stack) (rest : List Char) (v : Nat) : Prop where
  lt : v < s.heads.length
  rest : (s.top v).rest = rest
  free : ∀ t, (s.head v).activity ≠ .stuck t

theorem Level.frame {n : Nat} {rest : List Char} (h : s.Level rest v) (hs : s.Sound a text)
    (hf : Frame n s s') (hv : v < n) : s'.Level rest v :=
  ⟨Nat.lt_of_lt_of_le hv hf.length, by rw [(hf.top hs hv).rest, h.rest],
    fun t => by rw [hf.activity v hv]; exact h.free t⟩

theorem Level.remove_lt {rest : List Char} (h : s.Level rest u) (hu : u < v) :
    (s.remove v).Level rest u := by
  have hlt := h.lt
  refine ⟨?_, ?_, fun t => by rw [head_remove_lt hu]; exact h.free t⟩
  · rw [remove, List.length_eraseIdx]
    split <;> omega
  · rw [top, head_remove_lt hu]
    exact h.rest

theorem Level.remove_ge {rest : List Char} (h : s.Level rest (u + 1)) (hu : v ≤ u) :
    (s.remove v).Level rest u := by
  have hlt := h.lt
  refine ⟨?_, ?_, fun t => by rw [head_remove_ge hu]; exact h.free t⟩
  · rw [length_remove (by omega)]
    omega
  · rw [top, head_remove_ge hu]
    exact h.rest

/-- A reading and all from a place on stand before a text. -/
def LevelOn (s : Stack) (rest : List Char) (start n : Nat) : Prop :=
  ∀ u < s.heads.length, u = start ∨ n ≤ u → s.Level rest u

theorem LevelOn.remove {rest : List Char} {start n : Nat} (h : s.LevelOn rest start n)
    (hv : v < s.heads.length) (hn : n ≤ v) : (s.remove v).LevelOn rest start n := by
  intro u hu hon
  rw [length_remove hv] at hu
  rcases Nat.lt_or_ge u v with huv | huv
  · exact (h u (by omega) hon).remove_lt huv
  · exact (h (u + 1) (by omega) (Or.inr (by omega))).remove_ge huv

/-- What stands before the text still does, and so does what has come after it. -/
theorem LevelOn.extend {rest : List Char} {start n m : Nat} (h : s.LevelOn rest start n)
    (hs : s.Sound a text) (hf : Frame m s s') (hm : m = s.heads.length)
    (hnew : s'.LevelOn rest m m) : s'.LevelOn rest start n := by
  intro u hu hon
  rcases Nat.lt_or_ge u m with hlt | hge
  · exact (h u (hm ▸ hlt) hon).frame hs hf hlt
  · exact hnew u hu (Or.inr hge)

/-! ### Changing one reading -/

/-- All readings but one are on their vertices, and do what they did; there may be more. -/
structure Beside (v : Nat) (s s' : Stack) : Prop extends Grows s s' where
  length : s.heads.length ≤ s'.heads.length
  vertex : ∀ u < s.heads.length, u ≠ v → (s'.head u).vertex = (s.head u).vertex
  activity : ∀ u < s.heads.length, u ≠ v → (s'.head u).activity = (s.head u).activity

namespace Beside

theorem trans (h : Beside v s s') (h' : Beside v s' s'') : Beside v s s'' :=
  ⟨h.toGrows.trans h'.toGrows, h.length.trans h'.length,
    fun u hu hne => (h'.vertex u (Nat.lt_of_lt_of_le hu h.length) hne).trans (h.vertex u hu hne),
    fun u hu hne => (h'.activity u (Nat.lt_of_lt_of_le hu h.length) hne).trans
      (h.activity u hu hne)⟩

theorem of_frame (h : Frame s.heads.length s s') : Beside v s s' :=
  ⟨h.toGrows, h.length, fun u hu _ => h.vertex u hu, fun u hu _ => h.activity u hu⟩

theorem frame {n : Nat} (h : Beside v s s') (hn : n ≤ v) (hlength : n ≤ s.heads.length) :
    Frame n s s' :=
  ⟨h.toGrows, hlength.trans h.length, fun u hu => h.vertex u (by omega) (by omega),
    fun u hu => h.activity u (by omega) (by omega)⟩

theorem level {rest : List Char} (h : Beside v s s') (hs : s.Sound a text) (hu : s.Level rest u)
    (hne : u ≠ v) : s'.Level rest u := by
  refine ⟨Nat.lt_of_lt_of_le hu.lt h.length, ?_, fun t => ?_⟩
  · rw [top, h.vertex u hu.lt hne, (h.keeps _ (hs.head u).vertex).rest]
    exact hu.rest
  · rw [h.activity u hu.lt hne]
    exact hu.free t

theorem setHead (s : Stack) (v : Nat) (hd : Head) : Beside v s (s.setHead v hd) :=
  ⟨.of_vertices rfl, by simp, fun u _ hu => by rw [head_setHead_ne hu.symm],
    fun u _ hu => by rw [head_setHead_ne hu.symm]⟩

end Beside

/-- All readings but one are on their vertices, and do what they did. -/
structure Apart (v : Nat) (s s' : Stack) : Prop extends Grows s s' where
  length : s'.heads.length = s.heads.length
  vertex : ∀ u, u ≠ v → (s'.head u).vertex = (s.head u).vertex
  activity : ∀ u, u ≠ v → (s'.head u).activity = (s.head u).activity

namespace Apart

theorem refl (v : Nat) (s : Stack) : s.Apart v s :=
  ⟨.of_vertices rfl, rfl, fun _ _ => rfl, fun _ _ => rfl⟩

theorem trans (h : Apart v s s') (h' : Apart v s' s'') : Apart v s s'' :=
  ⟨h.toGrows.trans h'.toGrows, h'.length.trans h.length,
    fun u hu => (h'.vertex u hu).trans (h.vertex u hu),
    fun u hu => (h'.activity u hu).trans (h.activity u hu)⟩

theorem frame {n : Nat} (h : Apart v s s') (hn : n ≤ v) (hlength : n ≤ s.heads.length) :
    Frame n s s' :=
  ⟨h.toGrows, h.length ▸ hlength, fun u hu => h.vertex u (by omega),
    fun u hu => h.activity u (by omega)⟩

theorem beside (h : Apart v s s') : Beside v s s' :=
  ⟨h.toGrows, Nat.le_of_eq h.length.symm, fun u _ => h.vertex u, fun u _ => h.activity u⟩

theorem of_frame (h : Frame s.heads.length s s') (hlength : s'.heads.length = s.heads.length) :
    Apart v s s' := by
  have hdefault {u : Nat} (hu : s.heads.length ≤ u) : s'.head u = s.head u := by
    rw [head, head, List.getD_eq_getElem?_getD, List.getD_eq_getElem?_getD,
      List.getElem?_eq_none hu, List.getElem?_eq_none (hlength ▸ hu)]
  refine ⟨h.toGrows, hlength, fun u _ => ?_, fun u _ => ?_⟩
  all_goals rcases Nat.lt_or_ge u s.heads.length with hu | hu
  · exact h.vertex u hu
  · rw [hdefault hu]
  · exact h.activity u hu
  · rw [hdefault hu]

end Apart

/-! ### Replacing -/

section Replace

variable {old new n : Nat}

theorem head_replaceBy (h : old < new) (hnew : new < s.heads.length) :
    ((s.replaceBy old new).head old).vertex = (s.head new).vertex ∧
      ((s.replaceBy old new).head old).activity = (s.head new).activity := by
  rw [replaceBy, if_neg (Nat.ne_of_lt h)]
  dsimp only
  rw [head_remove_lt h, head_setHead_self (h.trans hnew)]
  exact ⟨rfl, rfl⟩

theorem length_replaceBy (h : old < new) (hnew : new < s.heads.length) :
    (s.replaceBy old new).heads.length = s.heads.length - 1 := by
  rw [replaceBy, if_neg (Nat.ne_of_lt h)]
  dsimp only
  rw [length_remove (by simpa using hnew), length_setHead]

theorem vertices_replaceBy (s : Stack) (old new : Nat) :
    (s.replaceBy old new).vertices = s.vertices := by
  rw [replaceBy]
  split <;> rfl

theorem head_replaceBy_ne (h : old < new) (hu : u < new) (hne : u ≠ old) :
    (s.replaceBy old new).head u = s.head u := by
  rw [replaceBy, if_neg (Nat.ne_of_lt h)]
  dsimp only
  rw [head_remove_lt hu, head_setHead_ne hne.symm]

theorem frame_replaceBy (h : old < new) (hnew : new < s.heads.length) (hn : n ≤ old) :
    Frame n s (s.replaceBy old new) := by
  have hsame (u : Nat) (hu : u < n) : (s.replaceBy old new).head u = s.head u :=
    head_replaceBy_ne h (by omega) (by omega)
  refine ⟨.of_vertices (vertices_replaceBy s old new), ?_, fun u hu => by rw [hsame u hu],
    fun u hu => by rw [hsame u hu]⟩
  rw [length_replaceBy h hnew]
  omega

theorem level_replaceBy {rest : List Char} (hl : s.Level rest new) (h : old < new) :
    (s.replaceBy old new).Level rest old := by
  obtain ⟨hvertex, hactivity⟩ := head_replaceBy h hl.lt
  have hlt := hl.lt
  refine ⟨by rw [length_replaceBy h hlt]; omega, ?_, fun t => hactivity ▸ hl.free t⟩
  rw [top, hvertex, vertex_eq (vertices_replaceBy s old new)]
  exact hl.rest

theorem LevelOn.replaceBy {rest : List Char} {start : Nat} (hon : s.LevelOn rest start n)
    (h : old < new) (hnew : new < s.heads.length) (hn : n ≤ new) :
    (s.replaceBy old new).LevelOn rest start n := by
  have hlevel := hon new hnew (Or.inr hn)
  rw [Stack.replaceBy, if_neg (Nat.ne_of_lt h)]
  refine LevelOn.remove (fun u hu hor => ?_) (by simpa using hnew) hn
  rw [length_setHead] at hu
  refine ⟨by simpa using hu, ?_, fun t => ?_⟩
  all_goals by_cases huo : old = u
  · subst huo
    rw [top, head_setHead_self hu]
    exact hlevel.rest
  · rw [top, head_setHead_ne huo]
    exact (hon u hu hor).rest
  · subst huo
    rw [head_setHead_self hu]
    exact hlevel.free t
  · rw [head_setHead_ne huo]
    exact (hon u hu hor).free t

end Replace

/-! ### Pushing -/

section Push

variable {tree : Option Subtree} {state : Nat} {x : Vertex}

theorem vertex_pushed_lt (h : i < s.vertices.size) (hs : s'.vertices = s.vertices.push x) :
    s'.vertex i = s.vertex i := by
  simp [vertex, hs, Array.getD, h, Nat.lt_succ_of_lt h, Array.getElem_push_lt h]

theorem vertex_pushed_size (hs : s'.vertices = s.vertices.push x) :
    s'.vertex s.vertices.size = x := by
  simp [vertex, hs, Array.getD]

theorem grows_pushed (hs : s'.vertices = s.vertices.push x) : s.Grows s' := by
  refine ⟨?_, fun i hi => ?_⟩
  · rw [hs, Array.size_push]
    exact Nat.le_succ _
  · rw [vertex_pushed_lt hi hs]
    exact .refl _

/-- The tree may be put above a vertex in a state. -/
structure Pushable (a : Automaton) (y : Vertex) (tree : Option Subtree) (state : Nat) : Prop where
  here : Subtree.charsOn tree <+: y.rest
  sound : ∀ t ∈ tree, t.Sound
  last : state = a.acceptState → ∃ t, tree = some t ∧ t.MayEnd a y.state

/-- What a vertex above another one is. -/
theorem vertexAbove_spec {y : Vertex} {below : Nat} (hy : s.vertex below = y)
    (h : Pushable a y tree state) (hstands : y.Stands text) :
    (s.vertexAbove below tree state).Stands text ∧
      Spans a (s.vertexAbove below tree state) y tree ∧
      (s.vertexAbove below tree state).links = [⟨below, tree⟩] ∧
      (s.vertexAbove below tree state).state = state := by
  subst hy
  cases tree with
  | none => exact ⟨hstands, ⟨rfl, h.sound, h.last⟩, rfl, rfl⟩
  | some t =>
    obtain ⟨more, hmore⟩ := h.here
    have hmore : t.chars ++ more = (s.vertex below).rest := hmore
    have hmeasures := (h.sound t rfl).measures
    have hrest : (s.vertex below).rest.drop t.total.chars = more := by
      rw [hmeasures.length, ← hmore, List.drop_left]
    unfold vertexAbove
    dsimp only
    rw [hrest]
    refine ⟨?_, ⟨hmore.symm, h.sound, h.last⟩, rfl, rfl⟩
    obtain ⟨past, htext, hpast⟩ := hstands
    exact ⟨past ++ t.chars, by rw [htext, ← hmore, List.append_assoc],
      by dsimp only; rw [hpast, hmeasures, Extent.ofList_append]⟩

theorem vertices_push (s : Stack) (v : Nat) (tree : Option Subtree) (state : Nat) :
    (s.push v tree state).vertices =
      s.vertices.push (s.vertexAbove (s.head v).vertex tree state) := rfl

@[simp]
theorem length_push (s : Stack) (v : Nat) (tree : Option Subtree) (state : Nat) :
    (s.push v tree state).heads.length = s.heads.length :=
  List.length_set

theorem head_push_ne (h : v ≠ u) : (s.push v tree state).head u = s.head u := by
  rw [push, head_setHead_ne h]
  rfl

theorem head_push_self (h : v < s.heads.length) :
    ((s.push v tree state).head v).vertex = s.vertices.size ∧
      ((s.push v tree state).head v).activity = (s.head v).activity := by
  rw [push, head_setHead_self (by exact h)]
  exact ⟨rfl, rfl⟩

theorem top_push (h : v < s.heads.length) :
    (s.push v tree state).top v = s.vertexAbove (s.head v).vertex tree state := by
  rw [top, (head_push_self h).1]
  exact vertex_pushed_size (vertices_push s v tree state)

theorem apart_push : Apart v s (s.push v tree state) :=
  ⟨grows_pushed (vertices_push s v tree state), length_push s v tree state,
    fun u hu => by rw [head_push_ne hu.symm], fun u hu => by rw [head_push_ne hu.symm]⟩

theorem sound_push (hs : s.Sound a text) (h : Pushable a (s.top v) tree state)
    (hfree : ∀ t, (s.head v).activity ≠ .stuck t) : (s.push v tree state).Sound a text := by
  have hbelow := (hs.head v).vertex
  obtain ⟨hstands, hspans, hlinks, -⟩ := vertexAbove_spec rfl h (hs.stands _ hbelow)
  have hvertices := vertices_push s v tree state
  have hsize : (s.push v tree state).vertices.size = s.vertices.size + 1 := by
    rw [hvertices, Array.size_push]
  have hnew := vertex_pushed_size hvertices
  have hold {i : Nat} (hi : i < s.vertices.size) := vertex_pushed_lt hi hvertices
  have hcases {i : Nat} (hi : i < (s.push v tree state).vertices.size) :
      i < s.vertices.size ∨ i = s.vertices.size := by omega
  refine ⟨by omega, fun i hi => ?_, fun i hi l hl => ?_, fun i hi l hl => ?_, fun i hi hl => ?_,
    fun hd hhd => ?_⟩
  · rcases hcases hi with hi | rfl
    · rw [hold hi]
      exact hs.stands i hi
    · rw [hnew]
      exact hstands
  · rcases hcases hi with hi | rfl
    · rw [hold hi] at hl
      exact hsize ▸ Nat.lt_succ_of_lt (hs.below i hi l hl)
    · rw [hnew, hlinks, List.mem_singleton] at hl
      rw [hl, hsize]
      exact Nat.lt_succ_of_lt hbelow
  · rcases hcases hi with hi | rfl
    · rw [hold hi] at hl ⊢
      rw [hold (hs.below i hi l hl)]
      exact hs.spans i hi l hl
    · rw [hnew, hlinks, List.mem_singleton] at hl
      rw [hnew, hl, hold hbelow]
      exact hspans
  · rcases hcases hi with hi | rfl
    · rw [hold hi] at hl ⊢
      exact hs.bottom i hi hl
    · rw [hnew, hlinks] at hl
      cases hl
  · rw [push] at hhd
    rcases List.mem_or_eq_of_mem_set hhd with hhd | rfl
    · exact (hs.seated hd hhd).grows (grows_pushed hvertices)
    · exact ⟨hsize ▸ Nat.lt_succ_self _, fun t ht => absurd ht (hfree t)⟩

/-- A reading stands behind what is put on it. -/
theorem level_push {rest more : List Char} (hs : s.Sound a text) (hl : s.Level rest v)
    (h : Pushable a (s.top v) tree state) (hmore : rest = Subtree.charsOn tree ++ more) :
    (s.push v tree state).Level more v ∧ ((s.push v tree state).top v).state = state := by
  obtain ⟨-, hspans, -, hstate⟩ := vertexAbove_spec rfl h (hs.stands _ (hs.head v).vertex)
  rw [← top_push hl.lt] at hspans hstate
  refine ⟨⟨by simpa using hl.lt, ?_, fun t => ?_⟩, hstate⟩
  · have hrest : (s.top v).rest = Subtree.charsOn tree ++ ((s.push v tree state).top v).rest :=
      hspans.rest
    rw [hl.rest, hmore] at hrest
    exact (List.append_cancel_left hrest).symm
  · rw [(head_push_self hl.lt).2]
    exact hl.free t

/-- What is put on a reading may all be behind a whole tree. -/
theorem sound_pushAll {rest : List Char} : ∀ {trees : List Subtree} {s : Stack} {more : List Char},
    s.Sound a text → s.Level rest v → (∀ t ∈ trees, t.Sound ∧ t.isExtra = true) →
      rest = Subtree.chars.charsOf trees ++ more →
      (state = a.acceptState → (s.top v).state = a.acceptState) →
      (s.pushAll v trees state).Sound a text ∧ (s.pushAll v trees state).Level more v ∧
        Apart v s (s.pushAll v trees state)
  | [], s, more, hs, hl, _, hrest, _ => by
    subst hrest
    exact ⟨hs, hl, .refl v s⟩
  | t :: trees, s, more, hs, hl, htrees, hrest, hstate => by
    obtain ⟨hsound, hextra⟩ := htrees t List.mem_cons_self
    rw [Subtree.charsOf_cons, List.append_assoc] at hrest
    have hpush : Pushable a (s.top v) (some t) state :=
      ⟨⟨_, by rw [hl.rest]; exact hrest.symm⟩, fun u hu => Option.some.inj hu ▸ hsound,
        fun haccept => ⟨t, rfl, Or.inr ⟨hextra, hstate haccept⟩⟩⟩
    obtain ⟨hlevel, htop⟩ := level_push hs hl hpush hrest
    obtain ⟨hrestSound, hrestLevel, hapart⟩ := sound_pushAll (sound_push hs hpush hl.free) hlevel
      (fun u hu => htrees u (List.mem_cons_of_mem _ hu)) rfl htop.trans
    exact ⟨hrestSound, hrestLevel, apart_push.trans hapart⟩

theorem vertex_push_of_lt (h : i < s.vertices.size) :
    (s.push v tree state).vertex i = s.vertex i :=
  vertex_pushed_lt h (vertices_push s v tree state)

theorem links_top_push (h : v < s.heads.length) :
    ((s.push v tree state).top v).links = [⟨(s.head v).vertex, tree⟩] := by
  rw [top_push h]
  cases tree <;> rfl

end Push

end Stack

end Testsmith.Parsing
