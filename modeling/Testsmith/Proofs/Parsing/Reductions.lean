/-
# Reductions cover the text

A reduction takes trees off a reading and puts one tree of them back, which spells what they spell:
the readings that come of it stand where the old one does (`Parse.reduce_reaches`). At the end of
the text a way down to the bottom is made a tree of the whole text (`Parse.sound_accept`).

Key definitions: `Automaton.Regular`, `Parse.Sound`, `Parse.Reaches`.
Key theorems: `Parse.reduce_reaches`, `Parse.reduceOn_reaches`, `Parse.sound_accept`.
-/
import Testsmith.Parsing.Reading
import Testsmith.Proofs.Parsing.Lexemes
import Testsmith.Proofs.Parsing.Ways
import Testsmith.Proofs.Parsing.Joins

namespace Testsmith.Parsing

/-- What the parser relies on in its tables: the end is a token of its own, and the text may end
only behind constructs that readers see. -/
structure Automaton.Regular (a : Automaton) : Prop where
  lexicon : a.lexicon.Proper
  shifts : ∀ state token, a.shift? state token ≠ some a.acceptState
  gotos : ∀ state construct, a.goto? state construct = some a.acceptState →
    a.isVisible (.construct construct) = true
  notError : a.acceptState ≠ errorState
  notFirst : a.acceptState ≠ firstState

variable {a : Automaton} {text rest : List Char}

theorem Automaton.Regular.visible_of_nextState (ha : a.Regular) {state construct : Nat}
    (h : a.nextState state (.construct construct) = a.acceptState) :
    a.isVisible (.construct construct) = true := by
  rw [Automaton.nextState] at h
  cases hgoto : a.goto? state construct with
  | none =>
    rw [hgoto] at h
    exact absurd h.symm ha.notError
  | some next =>
    rw [hgoto, Option.getD_some] at h
    exact ha.gotos state construct (h ▸ hgoto)

namespace Parse

/-- The stack is sound, and the tree that has been found is one of the text. -/
structure Sound (a : Automaton) (text : List Char) (p : Parse) : Prop where
  automaton : p.automaton = a
  stack : p.stack.Sound a text
  finished : ∀ t ∈ p.finished, t.chars = text ∧ t.Whole a

variable {p p' : Parse} {v n : Nat}

theorem Sound.with_stack (h : p.Sound a text) {s : Stack} (hs : s.Sound a text) :
    Sound a text { p with stack := s } :=
  ⟨h.automaton, hs, h.finished⟩

/-- All readings but some before a place are on their vertices; those stand before a text. -/
structure Reaches (a : Automaton) (text rest : List Char) (start n : Nat) (p p' : Parse) :
    Prop where
  sound : p'.Sound a text
  frame : Stack.Frame start p.stack p'.stack
  length : n ≤ p'.heads.length
  level : p'.stack.LevelOn rest start n

/-! ### Trees of several -/

/-- The best tree is made of the trees on one of the ways. -/
theorem bestOf_spec (p : Parse) (symbol : Symbol) {ways : List (List Subtree)} (h : ways ≠ []) :
    ∃ way ∈ ways, p.bestOf symbol ways = (Subtree.build p.automaton symbol
      (Subtree.splitExtras way).1, (Subtree.splitExtras way).2) := by
  obtain ⟨way, others, rfl⟩ := List.exists_cons_of_ne_nil h
  rw [bestOf]
  dsimp only
  refine List.foldlRecOn (motive := fun best => ∃ w ∈ way :: others, best =
    (Subtree.build p.automaton symbol (Subtree.splitExtras w).1, (Subtree.splitExtras w).2))
    others _ ⟨way, List.mem_cons_self, rfl⟩ fun best hbest next hnext => ?_
  split
  · exact ⟨next, List.mem_cons_of_mem _ hnext, rfl⟩
  · exact hbest

/-! ### Reductions -/

/-- Readings that were begun and have not been gone on with. `removed` counts those that are
gone. -/
structure Pending (s : Stack) (rest : List Char) (base removed : Nat)
    (popped : List Stack.Popped) : Prop where
  length : s.heads.length = base + popped.length
  place : ∀ i x, popped[i]? = some x → x.head = base + removed + i
  free : ∀ i < popped.length, ∀ t, (s.head (base + i)).activity ≠ .stuck t
  ways : ∀ i x, popped[i]? = some x →
    x.ways ≠ [] ∧ ∀ way ∈ x.ways, s.Way rest (s.head (base + i)).vertex way

theorem pending_pop {s : Stack} (hs : s.Sound a text) (v count : Nat) :
    Pending (s.pop v count).1 (s.top v).rest s.heads.length 0 (s.pop v count).2 := by
  have h := Stack.pop_begun hs v count
  refine ⟨h.length, h.place, fun i hi t ht => ?_, fun i x hx => ?_⟩
  · have hget : (s.pop v count).2[i]? = some (s.pop v count).2[i] := List.getElem?_eq_getElem hi
    have hactive := h.active _ (List.getElem_mem hi)
    rw [h.place i _ hget, ht] at hactive
    cases hactive
  · obtain ⟨hne, hways⟩ := h.ways x (List.mem_of_getElem? hx)
    rw [h.place i x hx] at hways
    exact ⟨hne, fun way hway => (hways way hway).grows h.frame.toGrows⟩

section Pending

variable {s s' : Stack} {base removed : Nat} {x : Stack.Popped} {xs : List Stack.Popped}

/-- The first of them is gone on with. -/
theorem Pending.kept (h : Pending s rest base removed (x :: xs)) (hs : s.Apart base s') :
    Pending s' rest (base + 1) removed xs := by
  have hlength := h.length
  rw [List.length_cons] at hlength
  have hplus (i : Nat) : base + 1 + i = base + (i + 1) := by omega
  refine ⟨by rw [hs.length]; omega, fun i y hy => ?_, fun i hi t => ?_, fun i y hy => ?_⟩
  · rw [h.place (i + 1) y hy]
    omega
  · rw [hs.activity _ (by omega), hplus]
    exact h.free (i + 1) (Nat.succ_lt_succ hi) t
  · obtain ⟨hne, hways⟩ := h.ways (i + 1) y hy
    rw [hs.vertex _ (by omega), hplus]
    exact ⟨hne, fun way hway => (hways way hway).grows hs.toGrows⟩

/-- The first of them is removed. -/
theorem Pending.gone (h : Pending s rest base removed (x :: xs)) (hs : s.Apart base s') :
    Pending (s'.remove base) rest base (removed + 1) xs := by
  have hlength := h.length
  rw [List.length_cons] at hlength
  have hhead (i : Nat) : (s'.remove base).head (base + i) = s'.head (base + (i + 1)) :=
    Stack.head_remove_ge (Nat.le_add_right _ _)
  refine ⟨?_, fun i y hy => ?_, fun i hi t => ?_, fun i y hy => ?_⟩
  · rw [Stack.length_remove (by rw [hs.length]; omega), hs.length]
    omega
  · rw [h.place (i + 1) y hy]
    omega
  · rw [hhead, hs.activity _ (by omega)]
    exact h.free (i + 1) (Nat.succ_lt_succ hi) t
  · obtain ⟨hne, hways⟩ := h.ways (i + 1) y hy
    rw [hhead, hs.vertex _ (by omega)]
    exact ⟨hne, fun way hway => (hways way hway).grows (hs.toGrows.trans (.of_vertices rfl))⟩

end Pending

/-- The tree of a reduction is put on a reading that was begun for it. -/
theorem sound_construct (ha : a.Regular) {s : Stack} (hs : s.Sound a text) {w construct : Nat}
    {symbol : Symbol} {trees extras : List Subtree} (amount : Nat)
    (hsymbol : symbol = .construct construct) (hw : w < s.heads.length)
    (hfree : ∀ t, (s.head w).activity ≠ .stuck t)
    (hway : s.Way rest (s.head w).vertex (trees ++ extras))
    (hextras : ∀ t ∈ extras, t.isExtra = true) :
    ∀ next, next = a.nextState (s.top w).state symbol →
    let tree := (Subtree.build a symbol trees).prefer amount
    ((s.push w (some tree) next).pushAll w extras next).Sound a text ∧
      ((s.push w (some tree) next).pushAll w extras next).Level rest w ∧
      Stack.Apart w s ((s.push w (some tree) next).pushAll w extras next) := by
  intro next hnext tree
  have hsound : ∀ t ∈ trees, t.Sound := fun t ht => hway.sound t (List.mem_append_left _ ht)
  have htree : tree.chars = Subtree.chars.charsOf trees := by
    rw [Subtree.chars_prefer, Subtree.chars_build]
  have hrest : (s.top w).rest = tree.chars ++ (Subtree.chars.charsOf extras ++ rest) := by
    rw [Stack.top, hway.rest, htree, Subtree.charsOf_append, List.append_assoc]
  have hpush : Stack.Pushable a (s.top w) (some tree) next := by
    refine ⟨⟨_, hrest.symm⟩, fun t ht => ?_,
      fun haccept => ⟨tree, rfl, Or.inl ⟨⟨?_, ?_, ?_, ?_⟩, ?_⟩⟩⟩
    · exact Option.some.inj ht ▸ (Subtree.sound_build hsound).prefer amount
    · rw [Subtree.isExtra_prefer, Subtree.isExtra_build]
    · rw [Subtree.symbol_prefer, Subtree.symbol_build, hsymbol]
      exact ha.visible_of_nextState (hsymbol ▸ hnext.symm.trans haccept)
    · rw [Subtree.symbol_prefer, Subtree.symbol_build, hsymbol]
      simp
    · exact ⟨_, _, rfl⟩
    · rw [Subtree.symbol_prefer, Subtree.symbol_build, hsymbol]
      simp
  obtain ⟨hlevel, hstate⟩ := Stack.level_push hs ⟨hw, hrest, hfree⟩ hpush rfl
  obtain ⟨hall, hlevel, hapart⟩ := Stack.sound_pushAll (Stack.sound_push hs hpush hfree) hlevel
    (fun t ht => ⟨hway.sound t (List.mem_append_right _ ht), hextras t ht⟩) rfl hstate.trans
  exact ⟨hall, hlevel, Stack.apart_push.trans hapart⟩

/-- The induction is on the readings that were begun. -/
theorem reducePopped_reaches (ha : a.Regular) (v construct halted : Nat) :
    ∀ {popped : List Stack.Popped} {base removed : Nat} {p : Parse}, p.Sound a text →
      Pending p.stack rest base removed popped →
      Reaches a text rest base base p (reducePopped v construct halted removed popped p)
  | [], base, removed, p, hp, hpending => by
    have hlength : p.heads.length = base := hpending.length
    rw [reducePopped]
    exact ⟨hp, .refl (Nat.le_of_eq hlength.symm), Nat.le_of_eq hlength.symm, fun u hu hon =>
      absurd hu (by rw [hpending.length, List.length_nil]; omega)⟩
  | x :: xs, base, removed, p, hp, hpending => by
    have hlength := hpending.length
    rw [List.length_cons] at hlength
    have hw : x.head - removed = base := by
      rw [hpending.place 0 x rfl]
      omega
    rw [reducePopped]
    dsimp only
    rw [hw]
    split
    · have hgone := reducePopped_reaches ha v construct halted
        (hp.with_stack (hp.stack.remove base)) (hpending.gone (.refl base p.stack))
      exact ⟨hgone.sound, (Stack.Frame.remove (by omega) (Nat.le_refl base)).trans hgone.frame,
        hgone.length, hgone.level⟩
    · obtain ⟨hne, hways⟩ := hpending.ways 0 x rfl
      obtain ⟨way, hway, hbest⟩ := p.bestOf_spec (.construct construct) hne
      obtain ⟨hsplit, hextras⟩ := Subtree.splitExtras_spec way
      rw [hbest, hp.automaton]
      dsimp only
      obtain ⟨hsound, hlevel, hapart⟩ := sound_construct ha hp.stack
        (a.preference construct) rfl (by omega) (hpending.free 0 (by simp))
        (hsplit.symm ▸ hways way hway) hextras _ rfl
      split
      · rename_i s hjoin
        obtain ⟨joined, hjoined, hframe, hcount, rfl⟩ := Stack.sound_joinFirst hsound hjoin
        have hapart' := hapart.trans (.of_frame hframe hcount)
        have hgone := reducePopped_reaches ha v construct halted
          (hp.with_stack (hjoined.remove base)) (hpending.gone hapart')
        refine ⟨hgone.sound, ?_, hgone.length, hgone.level⟩
        refine ((hapart'.frame (Nat.le_refl _) (by omega)).trans ?_).trans hgone.frame
        exact .remove (by rw [hapart'.length]; omega) (Nat.le_refl base)
      · have hkept := reducePopped_reaches ha v construct halted
          (hp.with_stack hsound) (hpending.kept hapart)
        refine ⟨hkept.sound, ?_, Nat.le_of_succ_le hkept.length, fun u hu hon => ?_⟩
        · exact (hapart.frame (Nat.le_refl _) (by omega)).trans
            (hkept.frame.mono (Nat.le_succ base))
        · have hle : base ≤ u := hon.elim (fun h => Nat.le_of_eq h.symm) id
          rcases Nat.lt_or_eq_of_le hle with hlt | rfl
          · exact hkept.level u hu (Or.inr hlt)
          · exact hlevel.frame hsound hkept.frame (Nat.lt_succ_self _)

/-- **What comes of a reduction stands where the reading does.** -/
theorem reduce_reaches (ha : a.Regular) (hp : p.Sound a text) (hv : p.stack.Level rest v)
    (r : Reduction) : Reaches a text rest p.heads.length p.heads.length p (p.reduce v r).1 ∧
      ∀ w ∈ (p.reduce v r).2, p.heads.length ≤ w ∧ w < (p.reduce v r).1.heads.length := by
  have hbegun := Stack.pop_begun hp.stack v r.count
  have hpending := pending_pop hp.stack v r.count
  rw [hv.rest] at hpending
  have hsound := hbegun.sound hp.stack fun _ _ hway => hway.below
  have hreaches := reducePopped_reaches ha v r.construct
    ((p.stack.pop v r.count).1.heads.countP Head.isHalted) (hp.with_stack hsound) hpending
  refine ⟨⟨hreaches.sound, hbegun.frame.trans hreaches.frame, hreaches.length, hreaches.level⟩,
    fun w hw => ?_⟩
  rw [reduce] at hw ⊢
  dsimp only at hw ⊢
  split at hw
  · rename_i hlt
    obtain rfl := Option.some.inj hw
    exact ⟨Nat.le_refl _, hlt⟩
  · cases hw

/-- Reductions one after another, and one of the readings that came of them. -/
theorem reduceFold_reaches (ha : a.Regular)
    (step : Parse × Option Nat → Reduction → Parse × Option Nat)
    (hstep : ∀ x r, (step x r).1 = (x.1.reduce v r).1 ∧
      ∀ w ∈ (step x r).2, w ∈ (x.1.reduce v r).2 ∨ w ∈ x.2) :
    ∀ (rs : List Reduction) {x : Parse × Option Nat}, x.1.Sound a text → n ≤ x.1.heads.length →
      v < n → x.1.stack.Level rest v → x.1.stack.LevelOn rest n n →
      (∀ w ∈ x.2, n ≤ w ∧ w < x.1.heads.length) →
      Reaches a text rest n n x.1 (rs.foldl step x).1 ∧
        ∀ w ∈ (rs.foldl step x).2, n ≤ w ∧ w < (rs.foldl step x).1.heads.length
  | [], x, hx, hn, _, _, hon, hlast => ⟨⟨hx, .refl hn, hn, hon⟩, hlast⟩
  | r :: rs, x, hx, hn, hvn, hv, hon, hlast => by
    obtain ⟨hfirst, hnew⟩ := reduce_reaches ha hx hv r
    obtain ⟨hparse, hpick⟩ := hstep x r
    have hlength := hfirst.length
    rw [← hparse] at hfirst hnew hlength
    have hframe := hfirst.frame.mono hn
    have hall := reduceFold_reaches ha step hstep rs (x := step x r) hfirst.sound
      (hn.trans hlength) hvn (hv.frame hx.stack hframe hvn)
      (hon.extend hx.stack hfirst.frame rfl hfirst.level) fun w hw => by
        rcases hpick w hw with hw | hw
        · exact ⟨hn.trans (hnew w hw).1, (hnew w hw).2⟩
        · exact ⟨(hlast w hw).1, Nat.lt_of_lt_of_le (hlast w hw).2 hlength⟩
    exact ⟨⟨hall.1.sound, hframe.trans hall.1.frame, hall.1.length, hall.1.level⟩, hall.2⟩

/-- Readings that all stand where an old one does are among those that were to be reached. -/
theorem Reaches.among {start m : Nat} (h : Reaches a text rest m m p p') (hp : p.Sound a text)
    (hm : m = p.heads.length) (hstart : start ≤ n) (hn : n ≤ m)
    (hon : p.stack.LevelOn rest start n) : Reaches a text rest start n p p' :=
  ⟨h.sound, h.frame.mono (hstart.trans hn), hn.trans h.length,
    hon.extend hp.stack h.frame hm h.level⟩

theorem Reaches.trans {start : Nat} {q : Parse} (h : Reaches a text rest start n p p')
    (h' : Reaches a text rest start n p' q) : Reaches a text rest start n p q :=
  ⟨h'.sound, h.frame.trans h'.frame, h'.length, h'.level⟩

theorem Reaches.remove {start : Nat} (h : Reaches a text rest start n p p') (hstart : start ≤ n)
    (hvn : n ≤ v) (hv : v < p'.heads.length) :
    Reaches a text rest start n p (p'.onStack (·.remove v)) := by
  have hlength : n ≤ (p'.stack.remove v).heads.length := by
    rw [Stack.length_remove hv]
    exact Nat.le_sub_one_of_lt (Nat.lt_of_le_of_lt hvn hv)
  exact ⟨h.sound.with_stack (h.sound.stack.remove v),
    h.frame.trans (.remove (Nat.lt_of_le_of_lt (hstart.trans hvn) hv) (hstart.trans hvn)), hlength,
    h.level.remove hv hvn⟩

theorem Reaches.replaceBy {start w : Nat} (h : Reaches a text rest start n p p') (hvw : v < w)
    (hw : w < p'.heads.length) (hv : start ≤ v) (hnw : n ≤ w) :
    Reaches a text rest start n p (p'.onStack (·.replaceBy v w)) := by
  have hlength : n ≤ (p'.stack.replaceBy v w).heads.length := by
    rw [Stack.length_replaceBy hvw hw]
    exact Nat.le_sub_one_of_lt (Nat.lt_of_le_of_lt hnw hw)
  exact ⟨h.sound.with_stack (h.sound.stack.replaceBy v w),
    h.frame.trans (Stack.frame_replaceBy hvw hw hv), hlength, h.level.replaceBy hvw hw hnw⟩

/-- A reading is joined into an earlier one only if it came of the reductions. -/
theorem le_of_joinFirst {initial : Nat} {s : Stack} (hinitial : n ≤ initial)
    (h : p.stack.joinFirst? v ((List.range v).drop initial) = some s) : n ≤ v := by
  rcases Nat.lt_or_ge v n with hlt | hge
  · have hnone : (List.range v).drop initial = [] :=
      List.drop_eq_nil_of_le (by rw [List.length_range]; omega)
    rw [hnone] at h
    cases h
  · exact hge

/-- A reading that has come to its end for the token makes room, or goes on as the last of those
that came of it. -/
theorem reduceOn_reaches (ha : a.Regular) {token : Option Nat} {start initial : Nat}
    (hinitial : n ≤ initial) (hstart : start ≤ n) (htoken : start < n → token = none) :
    ∀ {bound round v : Nat} {can : Bool} {p : Parse}, p.Sound a text → n ≤ p.heads.length →
      p.stack.LevelOn rest start n → (v = start ∨ n ≤ v) →
      Reaches a text rest start n p (reduceOn token start initial bound round v can p).1
  | 0, _, _, _, p, hp, hn, hon, _ => ⟨hp, .refl (hstart.trans hn), hn, hon⟩
  | bound + 1, round, v, can, p, hp, hn, hon, hv => by
    have hthen {q : Parse} {b : Bool} {i u : Nat} (hq : Reaches a text rest start n p q)
        (hu : u = start ∨ n ≤ u) :
        Reaches a text rest start n p (reduceOn token start initial bound i u b q).1 :=
      hq.trans (reduceOn_reaches ha hinitial hstart htoken hq.sound hq.length hq.level hu)
    rw [reduceOn]
    dsimp only
    split
    · exact ⟨hp, .refl (hstart.trans hn), hn, hon⟩
    rename_i hcount
    have hvlt : v < p.heads.length := Nat.lt_of_not_le hcount
    split
    · rename_i s hjoin
      have hvn : n ≤ v := le_of_joinFirst hinitial hjoin
      obtain ⟨joined, hjoined, hframe, hlength, rfl⟩ := Stack.sound_joinFirst hp.stack hjoin
      have hreaches : Reaches a text rest p.heads.length p.heads.length p
          { p with stack := joined } :=
        ⟨hp.with_stack hjoined, hframe, Nat.le_of_eq hlength.symm, fun u hu hge =>
          absurd (hlength ▸ hu : u < p.stack.heads.length) (by rw [heads] at hge; omega)⟩
      exact hthen ((hreaches.among hp rfl hstart hn hon).remove hstart hvn
        (hlength.symm ▸ hvlt : v < joined.heads.length)) hv
    · obtain ⟨hall, hlast⟩ := reduceFold_reaches ha (n := p.heads.length) (v := v)
        (fun x r => x.1.reduce v r) (fun x r => ⟨rfl, fun w hw => Or.inl hw⟩)
        (p.reductionsFor (p.state v) token) (x := (p, none)) hp (Nat.le_refl _) hvlt
        (hon v hvlt hv) (fun u (hu : u < p.heads.length) hge => absurd hu (by omega)) (by simp)
      generalize List.foldl _ (p, none) _ = x at hall hlast ⊢
      obtain ⟨q, last⟩ := x
      have hvq : v < q.heads.length := Nat.lt_of_lt_of_le hvlt hall.length
      have hq : Reaches a text rest start n p q := hall.among hp rfl hstart hn hon
      have hnext : (if v = start then p.heads.length else v + 1) = start ∨
          n ≤ if v = start then p.heads.length else v + 1 := by
        split
        · exact Or.inr hn
        · rename_i hne
          exact Or.inr (Nat.le_succ_of_le (hv.resolve_left hne))
      have hsome (h : token.isSome = true) : n ≤ v := by
        rcases Nat.lt_or_ge v n with hlt | hge
        · obtain rfl : v = start := hv.resolve_right (Nat.not_le_of_lt hlt)
          rw [htoken hlt] at h
          cases h
        · exact hge
      dsimp only
      split
      · exact hthen hq hnext
      split
      · rename_i w
        obtain ⟨hw, hwq⟩ : p.heads.length ≤ w ∧ w < q.heads.length := hlast w rfl
        split
        · exact hthen (hq.replaceBy (Nat.lt_of_lt_of_le hvlt hw) hwq (hv.elim (·.ge) hstart.trans)
            (hn.trans hw)) hv
        split
        · rename_i h
          exact hthen (hq.remove hstart (hsome h) hvq) hnext
        · exact hthen hq hnext
      · split
        · rename_i h
          exact hthen (hq.remove hstart (hsome h) hvq) hnext
        · exact hthen hq hnext

theorem reduceAll_reaches (ha : a.Regular) (token : Nat) (hp : p.Sound a text)
    (hn : n ≤ p.heads.length) (hv : v ≤ n) (hend : v < n → token = endToken)
    (hon : p.stack.LevelOn rest v n) : Reaches a text rest v n p (p.reduceAll v token).1 := by
  refine reduceOn_reaches ha hn hv (fun hlt => ?_) hp hn hon (Or.inl rfl)
  rw [if_pos (hend hlt)]

/-! ### Whole trees -/

/-- The trees on a way to the bottom make a tree of the whole text. -/
theorem rootOf_spec {trees : List Subtree} {t : Subtree}
    (htrees : Stack.Rooted a trees ∨ ∀ u ∈ trees, u.isExtra = true)
    (h : rootOf a trees = some t) : t.chars = Subtree.chars.charsOf trees ∧ t.Whole a := by
  rcases htrees with ⟨before, u, after, rfl, hwhole, hafter⟩ | hextra
  · rw [rootOf, Subtree.span_isExtra hwhole.expected hafter] at h
    dsimp only at h
    obtain rfl := Option.some.inj h
    obtain ⟨f, children, rfl⟩ := hwhole.node
    refine ⟨?_, Subtree.isExtra_build _ _, ?_, ?_, _, _, rfl⟩
    · simp [Subtree.children, Subtree.chars]
    · rw [Subtree.symbol_build]
      exact hwhole.visible
    · rw [Subtree.symbol_build]
      exact hwhole.construct
  · have hspan : trees.reverse.span Subtree.isExtra = (trees.reverse, []) := by
      rw [List.span_eq_takeWhile_dropWhile, List.takeWhile_eq_self_iff.mpr,
        List.dropWhile_eq_nil_iff.mpr]
      · exact fun u hu => hextra u (List.mem_reverse.mp hu)
      · exact fun u hu => hextra u (List.mem_reverse.mp hu)
    rw [rootOf, hspan] at h
    cases h

theorem sound_finish (hp : p.Sound a text) {trees : List Subtree}
    (hspells : Subtree.chars.charsOf trees = text)
    (htrees : Stack.Rooted a trees ∨ ∀ u ∈ trees, u.isExtra = true) :
    (p.finish trees).Sound a text := by
  have hroot {t : Subtree} (h : rootOf p.automaton trees = some t) :
      t.chars = text ∧ t.Whole a := by
    rw [hp.automaton] at h
    obtain ⟨hchars, hwhole⟩ := rootOf_spec htrees h
    exact ⟨hchars.trans hspells, hwhole⟩
  refine ⟨hp.automaton, hp.stack, fun t ht => ?_⟩
  rw [finish] at ht
  dsimp only at ht
  split at ht
  · rename_i u w hu hw
    have ht := Option.some.inj ht
    split at ht
    · exact ht ▸ hroot hw
    · exact ht ▸ hp.finished _ hu
  · exact hroot ht
  · exact hp.finished t ht

theorem sound_finishAll : ∀ {ways : List (List Subtree)} {p : Parse}, p.Sound a text →
    (∀ way ∈ ways, Subtree.chars.charsOf way = text ∧
      (Stack.Rooted a way ∨ ∀ u ∈ way, u.isExtra = true)) →
    (ways.foldl finish p).Sound a text
  | [], _, hp, _ => hp
  | way :: ways, p, hp, hways => by
    obtain ⟨hway, hways⟩ := List.forall_mem_cons.mp hways
    rw [List.foldl_cons]
    exact sound_finishAll (sound_finish hp hway.1 hway.2) hways

/-- **A reading that ends at the end of the text gives trees of the text.** -/
theorem sound_accept (ha : a.Regular) (hp : p.Sound a text) (hv : p.stack.Level rest v)
    {lookahead : Subtree} (hfits : lookahead.Fits rest)
    (hend : lookahead.symbol = .token endToken)
    (hclosing : p.stack.Closing a (p.stack.head v).vertex) :
    (p.accept v lookahead).Sound a text := by
  obtain ⟨hchars, hextra⟩ := hfits.ending hend
  have hpush : Stack.Pushable a (p.stack.top v) (some lookahead) firstState :=
    ⟨hv.rest ▸ hfits.here, fun t ht => Option.some.inj ht ▸ hfits.sound (by rw [hend]; simp),
      fun h => absurd h.symm ha.notFirst⟩
  have hpushed := Stack.sound_push hp.stack hpush hv.free
  have hrest : rest = Subtree.charsOn (some lookahead) ++ [] := by
    rw [List.append_nil]
    exact hchars.symm
  obtain ⟨hlevel, -⟩ := Stack.level_push hp.stack hv hpush hrest
  have hclosed : (p.stack.push v (some lookahead) firstState).Closed a
      ((p.stack.push v (some lookahead) firstState).head v).vertex := by
    intro l hl
    rw [← Stack.top, Stack.links_top_push hv.lt, List.mem_singleton] at hl
    subst hl
    exact ⟨lookahead, rfl, hextra, Stack.closing_push hp.stack (hp.stack.head v).vertex hclosing⟩
  have hbegun := Stack.popAll_begun hpushed hclosed hlevel.rest
  have hways : ∀ way ∈ ((p.stack.push v (some lookahead) firstState).popAll v).2.flatMap (·.ways),
      Subtree.chars.charsOf way = text ∧ (Stack.Rooted a way ∨ ∀ u ∈ way, u.isExtra = true) := by
    intro way hway
    obtain ⟨x, hx, hway⟩ := List.mem_flatMap.mp hway
    exact ((hbegun.ways x hx).2 way hway).2
  have hfinished := sound_finishAll (hp.with_stack (hbegun.sound hpushed fun _ _ h => h.1)) hways
  rw [accept]
  dsimp only
  generalize List.foldl finish _ _ = q at hfinished ⊢
  have hhalt {q : Parse} (hq : q.Sound a text) :
      (q.onStack (·.setActivity v .halted)).Sound a text :=
    hq.with_stack (hq.stack.setActivity (by simp))
  cases ((p.stack.push v (some lookahead) firstState).popAll v).2.head? with
  | none => exact hhalt hfinished
  | some x => exact hhalt (hfinished.with_stack (hfinished.stack.remove x.head))

end Parse

end Testsmith.Parsing
