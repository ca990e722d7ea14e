/-
# Ways down

Readings are begun further down by following links from a head. A way down over sound links spells
what lies above its end (`Stack.Way`), so each reading that is begun knows the text that was taken
off it (`Stack.pop_begun`). A way to the bottom, from a vertex where the text may end, goes over a
whole tree (`Stack.popAll_begun`).

Key definitions: `Stack.Way`, `Stack.Begun`, `Stack.Closing`, `Rooted`.
Key theorems: `Stack.search_begun`, `Stack.pop_begun`, `Stack.popAll_begun`, `Stack.popError_spec`.
-/
import Testsmith.Proofs.Parsing.Vertices

namespace Testsmith.Parsing

variable {a : Automaton} {text : List Char}

namespace Stack

variable {s s' : Stack} {v i : Nat} {rest : List Char} {p : Path} {l : Link} {popped : List Popped}

/-! ### Paths and readings begun at their ends -/

/-- The trees spell what lies between the vertex and the rest of the text. -/
structure Way (s : Stack) (rest : List Char) (i : Nat) (trees : List Subtree) : Prop where
  below : i < s.vertices.size
  rest : (s.vertex i).rest = Subtree.chars.charsOf trees ++ rest
  sound : ∀ t ∈ trees, t.Sound

theorem Way.over (h : s.Way rest p.vertex p.trees) (hs : s.Sound a text)
    (hl : l ∈ (s.vertex p.vertex).links) : s.Way rest (p.over l).vertex (p.over l).trees := by
  have hbelow := hs.below _ h.below l hl
  have hspans := hs.spans _ h.below l hl
  have hrest := hspans.rest
  rw [h.rest] at hrest
  rw [Path.over]
  cases htree : l.tree with
  | none =>
    rw [htree] at hrest
    exact ⟨hbelow, hrest, h.sound⟩
  | some t =>
    rw [htree] at hrest
    refine ⟨hbelow, hrest.trans (List.append_assoc _ _ _).symm, ?_⟩
    exact List.forall_mem_cons.mpr ⟨hspans.sound t htree, h.sound⟩

theorem Way.grows {trees : List Subtree} (h : s.Way rest i trees) (hg : s.Grows s') :
    s'.Way rest i trees :=
  ⟨Nat.lt_of_lt_of_le h.below hg.size, by rw [(hg.keeps i h.below).rest, h.rest], h.sound⟩

theorem way_self (hs : s.Sound a text) (v : Nat) : s.Way (s.top v).rest (s.head v).vertex [] :=
  ⟨(hs.head v).vertex, rfl, by simp⟩

/-- Readings have been begun at the ends of ways, and nothing else has changed. -/
structure Begun (s : Stack) (out : Nat → List Subtree → Prop) (s' : Stack)
    (popped : List Popped) : Prop where
  vertices : s'.vertices = s.vertices
  heads : ∃ new, s'.heads = s.heads ++ new ∧ new.length = popped.length
  place : ∀ i x, popped[i]? = some x → x.head = s.heads.length + i
  active : ∀ x ∈ popped, (s'.head x.head).activity = .active
  ways : ∀ x ∈ popped, x.ways ≠ [] ∧ ∀ way ∈ x.ways, out (s'.head x.head).vertex way

namespace Begun

variable {out : Nat → List Subtree → Prop}

theorem refl (s : Stack) (out : Nat → List Subtree → Prop) : s.Begun out s [] :=
  ⟨rfl, ⟨[], by simp⟩, by simp, by simp, by simp⟩

variable (h : s.Begun out s' popped)
include h

theorem length : s'.heads.length = s.heads.length + popped.length := by
  obtain ⟨new, hnew, hlength⟩ := h.heads
  rw [hnew, List.length_append, hlength]

theorem head_lt {x : Popped} (hx : x ∈ popped) :
    s.heads.length ≤ x.head ∧ x.head < s'.heads.length := by
  obtain ⟨i, hi, hget⟩ := List.getElem_of_mem hx
  have hplace := h.place i x (hget ▸ List.getElem?_eq_getElem hi)
  have hlength := h.length
  omega

theorem frame : Frame s.heads.length s s' := by
  obtain ⟨new, hnew, -⟩ := h.heads
  exact .of_append (.of_vertices h.vertices) hnew

theorem sound (hs : s.Sound a text) (hout : ∀ i trees, out i trees → i < s.vertices.size) :
    s'.Sound a text := by
  obtain ⟨new, hnew, hlength⟩ := h.heads
  refine hs.of_vertices h.vertices fun hd hhd => ?_
  rw [hnew] at hhd
  rcases List.mem_append.mp hhd with hhd | hhd
  · exact hs.seated hd hhd
  obtain ⟨i, hi, rfl⟩ := List.getElem_of_mem hhd
  obtain ⟨x, hx⟩ : ∃ x, popped[i]? = some x := by
    rw [hlength] at hi
    exact ⟨_, List.getElem?_eq_getElem hi⟩
  have hmem := List.mem_of_getElem? hx
  have hhead : s'.head x.head = new[i] := by
    have hlt := (h.head_lt hmem).2
    rw [h.place i x hx, head, hnew, List.getD_eq_getElem?_getD,
      List.getElem?_append_right (by omega)]
    simp [hi]
  obtain ⟨hne, hways⟩ := h.ways x hmem
  obtain ⟨way, hway⟩ := List.exists_mem_of_ne_nil _ hne
  refine ⟨hhead ▸ hout _ way (hways way hway), fun t ht => ?_⟩
  rw [← hhead, h.active x hmem] at ht
  cases ht

/-- One more way to where an earlier one ends. -/
theorem addWay {way : List Subtree} (hi : i < popped.length)
    (hway : out (s'.head popped[i].head).vertex way) :
    s.Begun out s' (popped.modify i fun x => { x with ways := x.ways ++ [way] }) := by
  have hmem {x : Popped} (hx : x ∈ popped.modify i fun x => { x with ways := x.ways ++ [way] }) :
      ∃ y ∈ popped, x.head = y.head ∧ x.ways ≠ [] ∧
        ∀ w ∈ x.ways, out (s'.head y.head).vertex w := by
    obtain ⟨j, hj, rfl⟩ := List.getElem_of_mem hx
    rw [List.length_modify] at hj
    obtain ⟨hne, hout⟩ := h.ways _ (List.getElem_mem hj)
    refine ⟨popped[j], List.getElem_mem hj, ?_⟩
    rw [List.getElem_modify]
    split
    · rename_i heq
      subst heq
      refine ⟨rfl, by simp, fun w hw => ?_⟩
      rcases List.mem_append.mp hw with hw | hw
      · exact hout w hw
      · exact List.mem_singleton.mp hw ▸ hway
    · exact ⟨rfl, hne, hout⟩
  refine ⟨h.vertices, by simpa using h.heads, fun j x hx => ?_, fun x hx => ?_, fun x hx => ?_⟩
  · rw [List.getElem?_modify, Option.map_eq_map, Option.map_eq_some_iff] at hx
    obtain ⟨y, hy, rfl⟩ := hx
    have hplace := h.place j y hy
    split <;> exact hplace
  · obtain ⟨y, hy, hhead, -⟩ := hmem hx
    exact hhead ▸ h.active y hy
  · obtain ⟨y, hy, hhead, hne, hout⟩ := hmem hx
    exact ⟨hne, hhead ▸ hout⟩

/-- One more reading, at the end of a way. -/
theorem addHead {s'' : Stack} {hd : Head} {way : List Subtree} (hs : s''.vertices = s'.vertices)
    (hh : s''.heads = s'.heads ++ [hd]) (hactive : hd.activity = .active)
    (hway : out hd.vertex way) : s.Begun out s'' (popped ++ [⟨s'.heads.length, [way]⟩]) := by
  obtain ⟨new, hnew, hlength⟩ := h.heads
  have hold {x : Popped} (hx : x ∈ popped) : s''.head x.head = s'.head x.head :=
    head_append hh (h.head_lt hx).2
  have hlast : s''.head s'.heads.length = hd := by
    simp [head, hh]
  refine ⟨hs.trans h.vertices, ⟨new ++ [hd], ?_, ?_⟩, fun j x hx => ?_, fun x hx => ?_,
    fun x hx => ?_⟩
  · rw [hh, hnew, List.append_assoc]
  · simp [hlength]
  · rcases Nat.lt_or_ge j popped.length with hj | hj
    · rw [List.getElem?_append_left hj] at hx
      exact h.place j x hx
    · rw [List.getElem?_append_right hj] at hx
      obtain ⟨hj', hx⟩ := List.getElem?_eq_some_iff.mp hx
      have hzero : j - popped.length = 0 := by simpa using hj'
      rw [← hx]
      simp only [List.getElem_singleton, h.length]
      omega
  · rcases List.mem_append.mp hx with hx | hx
    · rw [hold hx]
      exact h.active x hx
    · rw [List.mem_singleton.mp hx, hlast]
      exact hactive
  · rcases List.mem_append.mp hx with hx | hx
    · rw [hold hx]
      exact h.ways x hx
    · rw [List.mem_singleton.mp hx, hlast]
      exact ⟨by simp, by simpa using hway⟩

theorem popAt (origin : Nat) (hp : out p.vertex p.trees) :
    s.Begun out (s'.popAt origin popped p).1 (s'.popAt origin popped p).2 := by
  rw [Stack.popAt]
  split
  · rename_i i hi
    obtain ⟨hlt, hvertex, -⟩ := List.findIdx?_eq_some_iff_getElem.mp hi
    exact h.addWay hlt (of_decide_eq_true hvertex ▸ hp)
  · exact h.addHead rfl rfl rfl hp

end Begun

/-! ### The search -/

section Search

variable {σ : Type} {visit : σ → Vertex → Path → σ × Verdict} {origin : Nat}
  {ok out : Nat → List Subtree → Prop}

/-- Where the search goes on it comes to ways of a kind, and where it begins readings these are ways
of another. -/
structure Guides (s : Stack) (visit : σ → Vertex → Path → σ × Verdict)
    (ok out : Nat → List Subtree → Prop) : Prop where
  onward : ∀ memo p l, ok p.vertex p.trees → l ∈ (s.vertex p.vertex).links →
    (visit memo (s.vertex p.vertex) p).2.stop = false → ok (p.over l).vertex (p.over l).trees
  pop : ∀ memo p, ok p.vertex p.trees → (visit memo (s.vertex p.vertex) p).2.pop = true →
    out p.vertex p.trees

theorem followOnce_begun (hg : s.Guides visit ok out) : ∀ (todo kept added : List Path)
    (r : Search σ), s.Begun out r.stack r.popped →
      (∀ p ∈ todo, ok p.vertex p.trees) → (∀ p ∈ kept, ok p.vertex p.trees) →
      (∀ p ∈ added, ok p.vertex p.trees) →
      s.Begun out (followOnce visit origin todo kept added r).2.stack
          (followOnce visit origin todo kept added r).2.popped ∧
        ∀ p ∈ (followOnce visit origin todo kept added r).1, ok p.vertex p.trees
  | [], kept, added, r, hr, _, hkept, hadded => by
    refine ⟨hr, fun p hp => ?_⟩
    rw [followOnce] at hp
    rcases List.mem_append.mp hp with hp | hp
    · exact hkept p (List.mem_reverse.mp hp)
    · exact hadded p hp
  | p :: todo, kept, added, r, hr, htodo, hkept, hadded => by
    obtain ⟨hp, htodo⟩ := List.forall_mem_cons.mp htodo
    rw [followOnce]
    dsimp only
    rw [vertex_eq hr.vertices]
    have hnext : s.Begun out
        (if (visit r.memo (s.vertex p.vertex) p).2.pop = true then
          r.stack.popAt origin r.popped p else (r.stack, r.popped)).1
        (if (visit r.memo (s.vertex p.vertex) p).2.pop = true then
          r.stack.popAt origin r.popped p else (r.stack, r.popped)).2 := by
      split
      · rename_i hpop
        exact hr.popAt origin (hg.pop _ p hp hpop)
      · exact hr
    split
    · exact followOnce_begun hg todo kept added _ hnext htodo hkept hadded
    · rename_i first others hlinks
      split
      · exact followOnce_begun hg todo kept added _ hnext htodo hkept hadded
      · rename_i hstop
        have hover {l : Link} (hl : l ∈ first :: others) : ok (p.over l).vertex (p.over l).trees :=
          hg.onward _ p l hp (hlinks ▸ hl) (Bool.eq_false_iff.mpr hstop)
        refine followOnce_begun hg todo _ _ _ hnext htodo ?_ ?_
        · exact List.forall_mem_cons.mpr ⟨hover List.mem_cons_self, hkept⟩
        · intro q hq
          rcases List.mem_append.mp hq with hq | hq
          · exact hadded q hq
          · obtain ⟨l, hl, rfl⟩ := List.mem_map.mp hq
            exact hover (List.mem_cons_of_mem _ (List.mem_of_mem_take hl))

theorem follow_begun (hg : s.Guides visit ok out) : ∀ (bound : Nat) (paths : List Path)
    (r : Search σ), s.Begun out r.stack r.popped → (∀ p ∈ paths, ok p.vertex p.trees) →
      s.Begun out (follow visit origin bound paths r).stack
        (follow visit origin bound paths r).popped
  | 0, _, _, hr, _ => hr
  | _ + 1, [], _, hr, _ => hr
  | bound + 1, p :: paths, r, hr, hpaths => by
    obtain ⟨hnext, hkept⟩ := followOnce_begun hg (p :: paths) [] [] r hr hpaths
      (by simp) (by simp)
    exact follow_begun hg bound _ _ hnext hkept

/-- **A search begins readings at the ends of ways of its kind.** -/
theorem search_begun (ok : Nat → List Subtree → Prop) (hg : s.Guides visit ok out) (memo : σ)
    (hv : ok (s.head v).vertex []) :
    s.Begun out (s.search v memo visit).stack (s.search v memo visit).popped :=
  follow_begun hg _ _ _ (.refl s out) fun _ hp => List.mem_singleton.mp hp ▸ hv

end Search

/-! ### Reading taken off -/

/-- **What is taken off a reading is what its way spells.** -/
theorem pop_begun (hs : s.Sound a text) (v count : Nat) :
    s.Begun (s.Way (s.top v).rest) (s.pop v count).1 (s.pop v count).2 := by
  refine search_begun (s.Way (s.top v).rest) ⟨fun _ p l hp hl _ => ?_, fun _ p hp _ => hp⟩ ()
    (way_self hs v)
  exact hp.over hs hl

/-- The last of the trees that is not extra is whole. -/
def Rooted (a : Automaton) (trees : List Subtree) : Prop :=
  ∃ before t after, trees = before ++ t :: after ∧ t.Whole a ∧ ∀ u ∈ after, u.isExtra = true

/-- The text may end at the vertex: whole trees lie below it, and what stands behind them. -/
def Closing (a : Automaton) (s : Stack) (i : Nat) : Prop :=
  ∀ l ∈ (s.vertex i).links, ∃ t, l.tree = some t ∧
    (t.Whole a ∨ t.isExtra = true ∧ (s.vertex l.target).state = a.acceptState)

theorem closing_of_state (hs : s.Sound a text) (hi : i < s.vertices.size)
    (h : (s.vertex i).state = a.acceptState) : s.Closing a i :=
  fun l hl =>
    have ⟨t, htree, ht⟩ := (hs.spans i hi l hl).last h
    ⟨t, htree, ht.imp_left And.left⟩

theorem closing_push {tree : Option Subtree} {state : Nat} (hs : s.Sound a text)
    (hi : i < s.vertices.size) (h : s.Closing a i) : (s.push v tree state).Closing a i := by
  intro l hl
  rw [vertex_push_of_lt hi] at hl
  rw [vertex_push_of_lt (hs.below i hi l hl)]
  exact h l hl

/-- The end of the text has been put on a vertex where the text may end. -/
def Closed (a : Automaton) (s : Stack) (i : Nat) : Prop :=
  ∀ l ∈ (s.vertex i).links, ∃ t, l.tree = some t ∧ t.isExtra = true ∧ s.Closing a l.target

/-- A way down from the end of the text, and the trees on it. -/
structure Ending (a : Automaton) (s : Stack) (rest : List Char) (i : Nat)
    (trees : List Subtree) : Prop extends s.Way rest i trees where
  rooted : Rooted a trees ∨ (∀ t ∈ trees, t.isExtra = true) ∧ (s.Closing a i ∨ s.Closed a i)

theorem Ending.over (h : s.Ending a rest p.vertex p.trees) (hs : s.Sound a text)
    (hl : l ∈ (s.vertex p.vertex).links) : s.Ending a rest (p.over l).vertex (p.over l).trees := by
  have hway := h.toWay.over hs hl
  refine ⟨hway, ?_⟩
  rcases h.rooted with ⟨before, t, after, htrees, hwhole, hafter⟩ | ⟨hextra, hclosing | hclosed⟩
  · refine Or.inl ?_
    rw [Path.over]
    split
    · rename_i u _
      exact ⟨u :: before, t, after, by dsimp only; rw [htrees]; rfl, hwhole, hafter⟩
    · exact ⟨before, t, after, htrees, hwhole, hafter⟩
  · obtain ⟨t, htree, ht⟩ := hclosing l hl
    rw [Path.over, htree] at hway ⊢
    rcases ht with hwhole | ⟨hext, hstate⟩
    · exact Or.inl ⟨[], t, p.trees, rfl, hwhole, hextra⟩
    · exact Or.inr ⟨List.forall_mem_cons.mpr ⟨hext, hextra⟩,
        Or.inl (closing_of_state hs hway.below hstate)⟩
  · obtain ⟨t, htree, hext, hbelow⟩ := hclosed l hl
    rw [Path.over, htree]
    exact Or.inr ⟨List.forall_mem_cons.mpr ⟨hext, hextra⟩, Or.inl hbelow⟩

/-- **A way from the end of the text to its start spells the text.** -/
theorem popAll_begun (hs : s.Sound a text) (hv : s.Closed a (s.head v).vertex)
    (hrest : (s.top v).rest = []) :
    s.Begun (fun i trees => i < s.vertices.size ∧ Subtree.chars.charsOf trees = text ∧
      (Rooted a trees ∨ ∀ t ∈ trees, t.isExtra = true)) (s.popAll v).1 (s.popAll v).2 := by
  refine search_begun (s.Ending a []) ⟨fun _ p l hp hl _ => hp.over hs hl, fun _ p hp h => ?_⟩
    () ⟨hrest ▸ way_self hs v, Or.inr ⟨by simp, Or.inr hv⟩⟩
  have hbottom := hs.bottom _ hp.below (List.isEmpty_iff.mp h)
  rw [hp.rest, List.append_nil] at hbottom
  exact ⟨hp.below, hbottom, hp.rooted.imp_right And.left⟩

/-- A search that goes no further than over one tree, and begins readings only behind that of an
error. -/
theorem error_begun (hs : s.Sound a text) {w : Nat} (hw : s.Level rest w)
    (visit : Bool → Vertex → Path → Bool × Verdict)
    (hstop : ∀ found x p, (visit found x p).2.stop = false → p.trees = [])
    (hpop : ∀ found x p, (visit found x p).2.pop = true →
      ∃ t ts, p.trees = t :: ts ∧ t.symbol = .error) :
    s.Begun (fun i trees => s.Way rest i trees ∧ (∃ t, trees = [t] ∧ t.symbol = .error) ∧
        ((s.top w).state = a.acceptState → (s.vertex i).state = a.acceptState))
      (s.search w false visit).stack (s.search w false visit).popped := by
  refine search_begun (fun i trees => s.Way rest i trees ∧ trees.length ≤ 1 ∧
      ((s.top w).state = a.acceptState →
        (s.vertex i).state = a.acceptState ∨ ∃ t ∈ trees, t.symbol ≠ .error))
    ⟨fun found p l hp hl hgo => ?onward, fun found p hp hbegin => ?pop⟩ false
    ⟨hw.rest ▸ way_self hs w, Nat.zero_le 1, Or.inl⟩
  case onward =>
    have hnil : p.trees = [] := hstop _ _ _ hgo
    obtain ⟨hway, -, hstate⟩ := hp
    rw [hnil] at hstate
    refine ⟨hway.over hs hl, ?_, fun haccept => ?_⟩
    · rw [Path.over, hnil]
      split <;> simp
    · have haccept := (hstate haccept).resolve_right (by simp)
      obtain ⟨t, htree, ht⟩ := (hs.spans _ hway.below l hl).last haccept
      rw [Path.over, htree]
      rcases ht with ⟨-, hne⟩ | ⟨-, hbelow⟩
      · exact Or.inr ⟨t, List.mem_cons_self, hne⟩
      · exact Or.inl hbelow
  case pop =>
    obtain ⟨t, ts, htrees, herror⟩ := hpop _ _ _ hbegin
    rw [htrees] at hp ⊢
    obtain ⟨hway, hlength, hstate⟩ := hp
    obtain rfl : ts = [] :=
      List.length_eq_zero_iff.mp (Nat.le_zero.mp (Nat.le_of_succ_le_succ hlength))
    refine ⟨hway, ⟨t, rfl, herror⟩, fun haccept => (hstate haccept).resolve_right ?_⟩
    rintro ⟨u, hu, hne⟩
    exact hne (List.mem_singleton.mp hu ▸ herror)

/-- A reading that was begun takes the place of an old one. -/
theorem Begun.beside_replaceBy {out : Nat → List Subtree → Prop} {popped : List Popped}
    {x : Popped} (h : s.Begun out s' popped) (hx : x ∈ popped) {w : Nat}
    (hw : w < s.heads.length) : s.Beside w (s'.replaceBy w x.head) := by
  obtain ⟨hge, hlt⟩ := h.head_lt hx
  have hwx : w < x.head := Nat.lt_of_lt_of_le hw hge
  have hsame {u : Nat} (hu : u < s.heads.length) (hne : u ≠ w) :
      (s'.replaceBy w x.head).head u = s'.head u :=
    head_replaceBy_ne hwx (Nat.lt_of_lt_of_le hu hge) hne
  refine ⟨.of_vertices ((vertices_replaceBy _ _ _).trans h.vertices), ?_, fun u hu hne => ?_,
    fun u hu hne => ?_⟩
  · rw [length_replaceBy hwx hlt]
    omega
  · rw [hsame hu hne, h.frame.vertex u hu]
  · rw [hsame hu hne, h.frame.activity u hu]

/-- **An error that is taken off a reading is the last thing on it.** -/
theorem popError_spec (hs : s.Sound a text) {w : Nat} (hw : s.Level rest w)
    {s' : Stack} {earlier : Option Subtree} (h : s.popError w = (s', earlier)) :
    s'.Sound a text ∧ s.Beside w s' ∧ s'.Level (Subtree.charsOn earlier ++ rest) w ∧
      (∀ t ∈ earlier, t.Sound ∧ t.symbol = .error) ∧
      ((s.top w).state = a.acceptState → (s'.top w).state = a.acceptState) := by
  rw [popError] at h
  dsimp only at h
  split at h
  · obtain ⟨rfl, rfl⟩ := Prod.mk.inj h
    exact ⟨hs, .of_frame (.refl (Nat.le_refl _)), hw, (by simp), id⟩
  generalize hvisit : (fun (found : Bool) (_ : Vertex) (p : Path) => _) = visit at h
  have hbegun := error_begun hs hw visit
    (fun found x p hgo => by
      subst hvisit
      dsimp only at hgo
      split at hgo
      · assumption
      · split at hgo <;> cases hgo)
    (fun found x p hbegin => by
      subst hvisit
      dsimp only at hbegin
      split at hbegin
      · cases hbegin
      split at hbegin
      · rename_i t ts htrees hfound
        rw [Bool.and_eq_true, decide_eq_true_eq] at hfound
        exact ⟨t, ts, htrees, hfound.2⟩
      · cases hbegin)
  generalize s.search w false visit = r at h hbegun
  have hsound := hbegun.sound hs fun _ _ hout => hout.1.below
  split at h
  · obtain ⟨rfl, rfl⟩ := Prod.mk.inj h
    exact ⟨hsound, .of_frame hbegun.frame, hw.frame hs hbegun.frame hw.lt, (by simp),
      (hbegun.frame.top hs hw.lt).state.trans⟩
  · rename_i x others hpopped
    obtain ⟨rfl, rfl⟩ := Prod.mk.inj h
    have hx : x ∈ r.popped := hpopped ▸ List.mem_cons_self
    obtain ⟨hne, hout⟩ := hbegun.ways x hx
    obtain ⟨way, ways, hways⟩ := List.exists_cons_of_ne_nil hne
    obtain ⟨hway, ⟨t, rfl, herror⟩, hstate⟩ := hout way (hways ▸ List.mem_cons_self)
    obtain ⟨hge, hlt⟩ := hbegun.head_lt hx
    have hwx : w < x.head := Nat.lt_of_lt_of_le hw.lt hge
    have hlevel : r.stack.Level (t.chars ++ rest) x.head := by
      refine ⟨hlt, ?_, fun u hu => ?_⟩
      · rw [top, vertex_eq hbegun.vertices, hway.rest, Subtree.charsOf_cons, Subtree.charsOf_nil,
          List.append_nil]
      · rw [hbegun.active x hx] at hu
        cases hu
    have hearlier : x.ways.head?.bind List.head? = some t := by rw [hways]; rfl
    rw [hearlier]
    refine ⟨hsound.replaceBy w x.head, hbegun.beside_replaceBy hx hw.lt, level_replaceBy hlevel hwx,
      fun u hu => ?_, fun haccept => ?_⟩
    · obtain rfl := Option.some.inj hu
      exact ⟨hway.sound t List.mem_cons_self, herror⟩
    · rw [top, (head_replaceBy hwx hlt).1, vertex_eq (vertices_replaceBy _ _ _),
        vertex_eq hbegun.vertices]
      exact hstate haccept

end Stack

end Testsmith.Parsing
