/-
# Errors lose no text

Where no reading can take the next token, what is done about it keeps the text together: what is
passed over or given up goes into trees of errors, and a token that is supplied has no text. So the
stack stays sound through all of recovery (`Parse.sound_recover`, `Parse.sound_handleError`).

Key definitions: `Parse.Steady`, `Parse.Resumable`.
Key theorems: `Parse.sound_recover`, `Parse.sound_handleError`.
-/
import Testsmith.Parsing.Recovery
import Testsmith.Proofs.Parsing.Reductions

namespace Testsmith.Parsing

variable {a : Automaton} {text rest : List Char}

/-- What is known of a token by the move for it. -/
theorem Automaton.move?_spec {state token : Nat} {move : Move}
    (h : a.move? state token = some move) :
    match move with
    | .shift next | .shiftRepeat next => a.shift? state token = some next
    | .accept => token = endToken ∧ state = a.acceptState
    | .keep | .recover => True := by
  rw [Automaton.move?] at h
  split at h
  · obtain rfl := Option.some.inj h
    trivial
  split at h
  · split at h
    · cases h
    · obtain rfl := Option.some.inj h
      trivial
  split at h
  · rename_i hend
    obtain rfl := Option.some.inj h
    simpa using hend
  · obtain ⟨next, hnext, hmove⟩ := Option.map_eq_some_iff.mp h
    split at hmove <;> subst hmove <;> exact hnext

/-- No token leads to the state where the text may end, but one that leaves it where it is. -/
theorem Automaton.Regular.state_of_nextState (ha : a.Regular) {state token : Nat}
    (h : a.nextState state (.token token) = a.acceptState) : state = a.acceptState := by
  have hshift {next : Nat} (h : a.shift? state token = some next) : next ≠ a.acceptState :=
    fun hne => ha.shifts state token (hne ▸ h)
  rw [Automaton.nextState] at h
  split at h
  · rename_i hmove
    exact absurd h (hshift (Automaton.move?_spec hmove))
  · rename_i hmove
    exact absurd h (hshift (Automaton.move?_spec hmove))
  · exact h
  · exact absurd h.symm ha.notError

namespace Parse

variable {p p' : Parse} {v n : Nat} {lookahead : Subtree}

/-- The readings are where they were, and as many. -/
structure Steady (a : Automaton) (text : List Char) (p p' : Parse) : Prop where
  sound : p'.Sound a text
  frame : Stack.Frame p.heads.length p.stack p'.stack
  length : p'.heads.length = p.heads.length

theorem Steady.refl (hp : p.Sound a text) : Steady a text p p :=
  ⟨hp, .refl (Nat.le_refl _), rfl⟩

theorem Steady.trans {p'' : Parse} (h : Steady a text p p') (h' : Steady a text p' p'') :
    Steady a text p p'' :=
  ⟨h'.sound, h.frame.trans (h.length ▸ h'.frame), h'.length.trans h.length⟩

theorem steady_lowerBase (hp : p.Sound a text) (v : Nat) :
    Steady a text p (p.onStack (·.lowerBase v)) :=
  ⟨hp.with_stack (hp.stack.lowerBase v), .lowerBase p.stack v, Stack.length_setHead _ _ _⟩

theorem sound_halt (hp : p.Sound a text) (v : Nat) :
    (p.onStack (·.setActivity v .halted)).Sound a text :=
  hp.with_stack (hp.stack.setActivity (by simp))

theorem steady_beatenBy {mine : Standing} : ∀ {ws : List Nat} {p : Parse}, p.Sound a text →
    Steady a text p (p.beatenBy v mine ws).1
  | [], _, hp => .refl hp
  | w :: ws, p, hp => by
    have hlower := steady_lowerBase hp w
    rw [beatenBy]
    split
    · exact steady_beatenBy hp
    · dsimp only
      split
      · exact hlower
      · split
        · exact hlower
        · exact hlower.trans (steady_beatenBy hlower.sound)
      · exact hlower.trans (steady_beatenBy hlower.sound)

theorem steady_isBeaten (hp : p.Sound a text) (v : Nat) (inError : Bool) (cost : Nat) :
    Steady a text p (p.isBeaten v inError cost).1 := by
  rw [isBeaten]
  split
  · exact .refl hp
  · exact (steady_lowerBase hp v).trans (steady_beatenBy (steady_lowerBase hp v).sound)

/-! ### Returning -/

/-- A reading that was begun and the trees above it. -/
structure Resumable (s : Stack) (rest : List Char) (n : Nat) (w : Nat)
    (trees : List Subtree) : Prop where
  ge : n ≤ w
  lt : w < s.heads.length
  free : ∀ t, (s.head w).activity ≠ .stuck t
  way : s.Way rest (s.head w).vertex trees

theorem Resumable.beside {s s' : Stack} {w u : Nat} {trees : List Subtree}
    (h : Resumable s rest n w trees) (hs : s.Beside u s') (hne : w ≠ u) :
    Resumable s' rest n w trees :=
  ⟨h.ge, Nat.lt_of_lt_of_le h.lt hs.length, fun t => by rw [hs.activity w h.lt hne]; exact h.free t,
    by rw [hs.vertex w h.lt hne]; exact h.way.grows hs.toGrows⟩

/-- A reading that halts could be gone on with as well. -/
theorem Resumable.halt {s : Stack} {w u : Nat} {trees : List Subtree}
    (h : Resumable s rest n w trees) : Resumable (s.setActivity u .halted) rest n w trees := by
  by_cases hne : w = u
  · subst hne
    refine ⟨h.ge, by rw [Stack.setActivity, Stack.length_setHead]; exact h.lt, fun t => ?_, ?_⟩
    · rw [Stack.setActivity, Stack.head_setHead_self h.lt]
      simp
    · rw [Stack.setActivity, Stack.head_setHead_self h.lt]
      exact h.way.grows (.of_vertices rfl)
  · exact h.beside (.setHead s u _) hne

/-- A reading goes on with what was above it as an error. -/
theorem sound_resume {s : Stack} (hs : s.Sound a text) {w goal : Nat}
    {trees : List Subtree} (hw : Resumable s rest n w trees) (hgoal : (s.top w).state = goal) :
    let popped := s.popError w
    let all := popped.2.elim trees fun e => e.children ++ trees
    let split := Subtree.splitExtras all
    let pushed :=
      if split.1.isEmpty then popped.1
      else popped.1.push w (some ((Subtree.build a .error split.1).withExtra true)) goal
    (pushed.pushAll w split.2 goal).Sound a text ∧ s.Beside w (pushed.pushAll w split.2 goal) := by
  intro popped all split pushed
  have hlevel : s.Level (Subtree.chars.charsOf trees ++ rest) w := ⟨hw.lt, hw.way.rest, hw.free⟩
  obtain ⟨hpopped, hbeside, hlevel, hearlier, hstate⟩ :=
    Stack.popError_spec hs hlevel (Prod.eta popped).symm
  have hall : Subtree.charsOn popped.2 ++ (Subtree.chars.charsOf trees ++ rest) =
      Subtree.chars.charsOf all ++ rest ∧ ∀ t ∈ all, t.Sound := by
    cases hpop : popped.2 with
    | none =>
      simp only [all, hpop]
      exact ⟨rfl, hw.way.sound⟩
    | some e =>
      obtain ⟨hsound, herror⟩ := hearlier e hpop
      obtain ⟨hchars, hchildren⟩ := hsound.of_error herror
      simp only [all, hpop, Option.elim_some, Subtree.charsOn, hchars, Subtree.charsOf_append,
        List.append_assoc, true_and]
      exact List.forall_mem_append.mpr ⟨hchildren, hw.way.sound⟩
  obtain ⟨hspells, hsound⟩ := hall
  obtain ⟨hsplit, hextras⟩ := Subtree.splitExtras_spec all
  rw [hspells, ← hsplit, Subtree.charsOf_append, List.append_assoc] at hlevel
  rw [← hsplit] at hsound
  obtain ⟨hkept, hafter⟩ := List.forall_mem_append.mp hsound
  have haccept (h : goal = a.acceptState) : (popped.1.top w).state = a.acceptState :=
    hstate (hgoal.trans h)
  have hpushed : pushed.Sound a text ∧ popped.1.Beside w pushed ∧
      pushed.Level (Subtree.chars.charsOf split.2 ++ rest) w ∧
      (goal = a.acceptState → (pushed.top w).state = a.acceptState) := by
    by_cases hempty : split.1.isEmpty = true
    · have hnil : split.1 = [] := List.isEmpty_iff.mp hempty
      simp only [pushed, hempty, if_true]
      have hlevel : popped.1.Level (Subtree.chars.charsOf split.1 ++
        (Subtree.chars.charsOf split.2 ++ rest)) w := hlevel
      rw [hnil] at hlevel
      exact ⟨hpopped, .of_frame (.refl (Nat.le_refl _)), hlevel, haccept⟩
    · simp only [pushed, hempty]
      have hpush : Stack.Pushable a (popped.1.top w)
          (some ((Subtree.build a .error split.1).withExtra true)) goal := by
        refine ⟨⟨_, hlevel.rest.symm⟩, fun t ht => ?_, fun h => ⟨_, rfl, Or.inr ⟨?_, haccept h⟩⟩⟩
        · exact Option.some.inj ht ▸ (Subtree.sound_build hkept).withExtra true
        · rw [Subtree.isExtra_withExtra]
      obtain ⟨hlevel', htop⟩ := Stack.level_push hpopped hlevel hpush rfl
      exact ⟨Stack.sound_push hpopped hpush hlevel.free, Stack.apart_push.beside, hlevel',
        htop.trans⟩
  obtain ⟨hpushedSound, hpushedBeside, hpushedLevel, hpushedState⟩ := hpushed
  obtain ⟨hall, -, hapart⟩ := Stack.sound_pushAll hpushedSound hpushedLevel
    (fun t ht => ⟨hafter t ht, hextras t ht⟩) rfl hpushedState
  exact ⟨hall, (hbeside.trans hpushedBeside).trans hapart.beside⟩

/-- The induction is on the ways. Those that end where the last reading was begun are passed over,
and the others are as they were. -/
theorem sound_resumeAt (goal : Nat) : ∀ (last : Option Nat) {xs : List (Nat × List Subtree)}
    {p : Parse}, p.Sound a text →
    (∀ x ∈ xs, last = some x.1 ∨ Resumable p.stack rest n x.1 x.2) →
    xs.Pairwise (·.1 ≤ ·.1) → (∀ l ∈ last, ∀ x ∈ xs, l ≤ x.1) → n ≤ p.heads.length →
    (resumeAt goal last xs p).1.Sound a text ∧
      Stack.Frame n p.stack (resumeAt goal last xs p).1.stack
  | _, [], p, hp, _, _, _, hn => ⟨hp, .refl hn⟩
  | last, (w, trees) :: xs, p, hp, hready, hsorted, hlast, hn => by
    obtain ⟨hfirst, hready⟩ := List.forall_mem_cons.mp hready
    obtain ⟨hle, hsorted⟩ := List.pairwise_cons.mp hsorted
    have hlast' : ∀ l ∈ last, ∀ x ∈ xs, l ≤ x.1 :=
      fun l hl x hx => hlast l hl x (List.mem_cons_of_mem _ hx)
    rw [resumeAt]
    split
    · exact sound_resumeAt goal last hp hready hsorted hlast' hn
    rename_i hne
    have hw := hfirst.resolve_left hne
    split
    · have hrest := sound_resumeAt goal last (sound_halt hp w)
        (fun x hx => (hready x hx).imp_right .halt) hsorted hlast'
        (by rw [onStack, heads, Stack.setActivity, Stack.length_setHead]; exact hn)
      exact ⟨hrest.1, (Stack.Frame.setHead hn _ hw.ge).trans hrest.2⟩
    · rename_i hgoal
      obtain ⟨hsound, hbeside⟩ := sound_resume hp.stack hw (Decidable.not_not.mp hgoal)
      have hframe := hbeside.frame hw.ge hn
      have hrest := sound_resumeAt goal (some w) (hp.with_stack hsound)
        (fun x hx => ?_) hsorted (fun l hl x hx => Option.some.inj hl ▸ hle x hx) hframe.length
      · exact ⟨hrest.1, hframe.trans hrest.2⟩
      · by_cases hxw : x.1 = w
        · exact Or.inl (by rw [hxw])
        · refine Or.inr (((hready x hx).resolve_left fun h => hxw ?_).beside hbeside hxw)
          exact Nat.le_antisymm (hlast _ h (w, trees) List.mem_cons_self) (hle x hx)

theorem sound_returnTo (hp : p.Sound a text) (v depth goal : Nat) :
    (p.returnTo v depth goal).1.Sound a text ∧
      Stack.Frame p.heads.length p.stack (p.returnTo v depth goal).1.stack := by
  have hbegun := Stack.pop_begun hp.stack v depth
  have hpopped := hbegun.sound hp.stack fun _ _ hway => hway.below
  have hready : ∀ x ∈ (p.stack.pop v depth).2.flatMap fun x => x.ways.map (x.head, ·),
      none = some x.1 ∨
        Resumable (p.stack.pop v depth).1 (p.stack.top v).rest p.heads.length x.1 x.2 := by
    intro x hx
    obtain ⟨y, hy, hx⟩ := List.mem_flatMap.mp hx
    obtain ⟨way, hway, rfl⟩ := List.mem_map.mp hx
    obtain ⟨hge, hlt⟩ := hbegun.head_lt hy
    refine Or.inr ⟨hge, hlt, fun t => ?_,
      ((hbegun.ways y hy).2 way hway).grows hbegun.frame.toGrows⟩
    rw [hbegun.active y hy]
    simp
  have hsorted : ((p.stack.pop v depth).2.flatMap fun x => x.ways.map (x.head, ·)).Pairwise
      (·.1 ≤ ·.1) := by
    rw [List.pairwise_flatMap]
    refine ⟨fun y _ => List.pairwise_map.mpr (List.pairwise_of_forall fun _ _ => Nat.le_refl _), ?_⟩
    rw [List.pairwise_iff_getElem]
    intro i j hi hj hij x hx y hy
    obtain ⟨_, _, rfl⟩ := List.mem_map.mp hx
    obtain ⟨_, _, rfl⟩ := List.mem_map.mp hy
    have hfirst := hbegun.place i _ (List.getElem?_eq_getElem hi)
    have hnext := hbegun.place j _ (List.getElem?_eq_getElem hj)
    dsimp only
    omega
  obtain ⟨hsound, hframe⟩ := sound_resumeAt goal none (hp.with_stack hpopped)
    hready hsorted (by simp) hbegun.frame.length
  exact ⟨hsound, hbegun.frame.trans hframe⟩

theorem sound_returnToFirst {count cost nodes : Nat} (hn : n ≤ p.heads.length)
    (hp : p.Sound a text) : ∀ {ws : List Waypoint}, (returnToFirst v count cost nodes lookahead ws p).1.Sound a text ∧
      Stack.Frame n p.stack (returnToFirst v count cost nodes lookahead ws p).1.stack := by
  intro ws
  induction ws generalizing p with
  | nil => exact ⟨hp, .refl hn⟩
  | cons w ws ih =>
    rw [returnToFirst]
    dsimp only
    split
    · exact ih hn hp
    have hbeaten := steady_isBeaten hp v false (cost + w.depth * Cost.skippedTree + Cost.text
      { bytes := (p.stack.top v).position.bytes - w.position.bytes
        lines := (p.stack.top v).position.lines - w.position.lines })
    generalize p.isBeaten v false _ = x at hbeaten ⊢
    have hframe := hbeaten.frame.mono hn
    have hnext := ih (hn.trans (Nat.le_of_eq hbeaten.length.symm)) hbeaten.sound
    split
    · exact ⟨hbeaten.sound, hframe⟩
    split
    · exact ⟨hnext.1, hframe.trans hnext.2⟩
    have hreturn := sound_returnTo hbeaten.sound v
      (if 0 < nodes then w.depth + 1 else w.depth) w.state
    generalize x.1.returnTo v _ w.state = y at hreturn ⊢
    have hframe := hframe.trans (hreturn.2.mono (hn.trans (Nat.le_of_eq hbeaten.length.symm)))
    split
    · exact ⟨hreturn.1, hframe⟩
    · have hlater := ih hframe.length hreturn.1
      exact ⟨hlater.1, hframe.trans hlater.2⟩

theorem sound_dropStopped (hp : p.Sound a text) (hn : n ≤ p.heads.length) :
    (p.dropStopped n).Sound a text ∧ Stack.Frame n p.stack (p.dropStopped n).stack := by
  have hhead (u : Nat) (hu : u < n) : (p.dropStopped n).stack.head u = p.stack.head u := by
    have hlength : (p.stack.heads.take n).length = n :=
      List.length_take_of_le hn
    simp only [dropStopped, onStack, Stack.head, List.getD_eq_getElem?_getD]
    rw [List.getElem?_append_left (by omega), List.getElem?_take_of_lt hu]
  refine ⟨hp.with_stack (hp.stack.of_vertices rfl fun hd hhd => ?_), .of_vertices rfl, ?_,
    fun u hu => by rw [hhead u hu], fun u hu => by rw [hhead u hu]⟩
  · rcases List.mem_append.mp hhd with hhd | hhd
    · exact hp.stack.seated hd (List.mem_of_mem_take hhd)
    · exact hp.stack.seated hd (List.mem_of_mem_drop (List.mem_filter.mp hhd).1)
  · simp only [dropStopped, onStack, List.length_append]
    exact Nat.le_add_right_of_le (Nat.le_of_eq (List.length_take_of_le hn).symm)

/-! ### Passing over -/

/-- Any sound tree may be put on a reading in the state after an error. -/
theorem sound_skip (ha : a.Regular) {s : Stack} (hs : s.Sound a text) {v : Nat} {more : List Char}
    {tree : Subtree} (htree : tree.Sound) (hv : s.Level (tree.chars ++ more) v) :
    (s.push v (some tree) errorState).Sound a text :=
  Stack.sound_push hs ⟨⟨more, hv.rest.symm⟩, fun _ ht => Option.some.inj ht ▸ htree,
    fun h => absurd h.symm ha.notError⟩ hv.free

/-- A token that is passed over is kept with its text. -/
theorem sound_skippedToken (hfits : lookahead.Fits rest) (move : Option Move) :
    let skipped := Subtree.build a .skipped
      [match move with
        | some .keep => lookahead.withExtra true
        | _ => lookahead]
    skipped.Sound ∧ skipped.chars = lookahead.chars := by
  refine ⟨Subtree.sound_build_skipped (List.forall_mem_singleton.mpr ?_), ?_⟩
  · split
    · exact hfits.measures.withExtra true
    · exact hfits.measures
  · rw [Subtree.chars_build, Subtree.charsOf_cons, Subtree.charsOf_nil, List.append_nil]
    split
    · exact Subtree.chars_withExtra _ _
    · rfl

/-- What has been passed over grows by a token. -/
theorem sound_passOver (ha : a.Regular) (hp : p.Sound a text) (hv : p.stack.Level rest v)
    (hfits : lookahead.Fits rest) (nodes : Nat) : (p.passOver v nodes lookahead).Sound a text := by
  rw [passOver]
  dsimp only
  obtain ⟨hsound, hchars⟩ := sound_skippedToken (a := p.automaton) hfits
    (p.automaton.actions firstState lookahead.symbol).move
  generalize Subtree.build p.automaton .skipped [_] = skipped at hsound hchars ⊢
  obtain ⟨more, hmore⟩ := hfits.here
  obtain rfl : rest = skipped.chars ++ more := by rw [hchars, hmore]
  split
  · exact hp.with_stack (sound_skip ha hp.stack hsound hv)
  have hbegun := Stack.pop_begun hp.stack v 1
  have hpopped := hbegun.sound hp.stack fun _ _ hway => hway.below
  split
  · exact hp.with_stack (sound_skip ha hpopped hsound (hv.frame hp.stack hbegun.frame hv.lt))
  · rename_i x others hcons
    have hx : x ∈ (p.stack.pop v 1).2 := hcons ▸ List.mem_cons_self
    obtain ⟨hge, hlt⟩ := hbegun.head_lt hx
    obtain ⟨hne, hways⟩ := hbegun.ways x hx
    have hway : x.ways.headD [] ∈ x.ways := by
      obtain ⟨way, ways, hways⟩ := List.exists_cons_of_ne_nil hne
      rw [hways]
      exact List.mem_cons_self
    have hway := hways _ hway
    generalize x.ways.headD [] = way at hway ⊢
    have hwhole : (Subtree.build p.automaton .skipped (way ++ [skipped])).Sound :=
      Subtree.sound_build_skipped (List.forall_mem_append.mpr
        ⟨fun t ht => (hway.sound t ht).measures, List.forall_mem_singleton.mpr hsound.measures⟩)
    have hchars : (Subtree.build p.automaton .skipped (way ++ [skipped])).chars =
        Subtree.chars.charsOf way ++ skipped.chars := by
      simp
    -- the reading that was begun, on the stack with or without the others
    have hlevel (s : Stack) (hs : s.vertices = (p.stack.pop v 1).1.vertices)
        (hhead : s.head x.head = (p.stack.pop v 1).1.head x.head) (hlt : x.head < s.heads.length) :
        s.Level ((Subtree.build p.automaton .skipped (way ++ [skipped])).chars ++ more) x.head := by
      refine ⟨hlt, ?_, fun t => ?_⟩
      · rw [Stack.top, hhead, Stack.vertex_eq hs, Stack.vertex_eq hbegun.vertices, hway.rest,
          hv.rest, hchars, List.append_assoc]
      · rw [hhead, hbegun.active x hx]
        simp
    have hdone {s : Stack} (hs : s.Sound a text)
        (hl : s.Level ((Subtree.build p.automaton .skipped (way ++ [skipped])).chars ++ more)
          x.head) :
        ((s.replaceBy v x.head).push v (some (Subtree.build p.automaton .skipped
          (way ++ [skipped]))) errorState).Sound a text :=
      sound_skip ha (hs.replaceBy v x.head) hwhole
        (Stack.level_replaceBy hl (Nat.lt_of_lt_of_le hv.lt hge))
    split
    · exact hp.with_stack (hdone hpopped (hlevel _ rfl rfl hlt))
    · refine hp.with_stack (hdone (hpopped.truncate (x.head + 1)) (hlevel _ rfl ?_ ?_))
      · simp only [Stack.head, Stack.truncate, List.getD_eq_getElem?_getD,
          List.getElem?_take_of_lt (Nat.lt_succ_self x.head)]
      · rw [Stack.truncate, List.length_take_of_le hlt]
        exact Nat.lt_succ_self _

/-- **Going on in an error loses no text.** -/
theorem sound_recover (ha : a.Regular) (hp : p.Sound a text) (hv : p.stack.Level rest v)
    (hfits : lookahead.Fits rest) : (p.recover v lookahead).Sound a text := by
  rw [recover]
  dsimp only
  have hlower := steady_lowerBase hp v
  generalize hq : p.onStack (·.lowerBase v) = q at hlower ⊢
  have hcount : p.heads.length ≤ q.heads.length := Nat.le_of_eq hlower.length.symm
  generalize hx : (if lookahead.symbol = .error then (q, false)
    else returnToFirst v p.heads.length _ _ lookahead _ q) = x
  have hreturned : x.1.Sound a text ∧ Stack.Frame p.heads.length q.stack x.1.stack := by
    rw [← hx]
    split
    · exact ⟨hlower.sound, .refl hcount⟩
    · exact sound_returnToFirst hcount hlower.sound
  obtain ⟨hsound, hframe⟩ := hreturned
  obtain ⟨hdropped, hdrop⟩ := sound_dropStopped hsound hframe.length
  have hframe := (hlower.frame.trans hframe).trans hdrop
  generalize x.1.dropStopped p.heads.length = r at hdropped hframe ⊢
  have hr := hv.frame hp.stack hframe hv.lt
  split
  · exact sound_halt hdropped v
  split
  · rename_i hend
    have hpush : Stack.Pushable a (r.stack.top v) (some (Subtree.build r.automaton .error []))
        firstState :=
      ⟨List.nil_prefix, fun t ht => Option.some.inj ht ▸ Subtree.sound_build (by simp),
        fun h => absurd h.symm ha.notFirst⟩
    refine sound_accept ha (hdropped.with_stack (Stack.sound_push hdropped.stack hpush hr.free))
      (Stack.level_push hdropped.stack hr hpush rfl).1 hfits hend fun l hl => ?_
    have hl : l ∈ ((r.stack.push v _ _).top v).links := hl
    rw [Stack.links_top_push hr.lt, List.mem_singleton] at hl
    refine ⟨_, by rw [hl], Or.inl ⟨Subtree.isExtra_build _ _, ?_, ?_, _, _, rfl⟩⟩
    · rw [Subtree.symbol_build]
      rfl
    · rw [Subtree.symbol_build]
      simp
  · have hbeaten := steady_isBeaten hdropped v false
      (q.stack.cost v + Cost.skippedTree + Cost.text lookahead.total)
    generalize r.isBeaten v false _ = y at hbeaten ⊢
    split
    · exact sound_halt hbeaten.sound v
    · exact sound_passOver ha hbeaten.sound (hr.frame hdropped.stack hbeaten.frame hr.lt) hfits _

/-! ### Supplying -/

/-- A token is supplied on a copy of a reading. It has no text. -/
theorem sound_supplied (ha : a.Regular) (hp : p.Sound a text) (hv : p.stack.Level rest v)
    {token : Nat} (hne : a.nextState (p.state v) (.token token) ≠ p.state v) :
    let supplied := p.onStack fun s => (s.duplicate v).push p.heads.length
      (some (Subtree.missing a token)) (a.nextState (p.state v) (.token token))
    supplied.Sound a text ∧ Stack.Frame p.heads.length p.stack supplied.stack ∧
      supplied.stack.LevelOn rest p.heads.length p.heads.length ∧
      p.heads.length ≤ supplied.heads.length := by
  intro supplied
  have hlength : (p.stack.duplicate v).heads.length = p.heads.length + 1 := List.length_append
  have hhead : (p.stack.duplicate v).head p.heads.length =
      { p.stack.head v with waypoints := none } := by
    simp [Stack.head, Stack.duplicate, heads]
  have hlevel : (p.stack.duplicate v).Level rest p.heads.length := by
    refine ⟨by omega, ?_, fun t => ?_⟩
    · rw [Stack.top, hhead, ← hv.rest]
      rfl
    · rw [hhead]
      exact hv.free t
  have hpush : Stack.Pushable a ((p.stack.duplicate v).top p.heads.length)
      (some (Subtree.missing a token)) (a.nextState (p.state v) (.token token)) := by
    refine ⟨List.nil_prefix, fun u hu => Option.some.inj hu ▸ Subtree.sound_missing token,
      fun h => absurd (h.trans ?_) hne⟩
    exact (ha.state_of_nextState h).symm
  have hsupplied : supplied.stack.heads.length = p.heads.length + 1 :=
    (Stack.length_push _ _ _ _).trans hlength
  have hcopied : Stack.Frame p.heads.length p.stack (p.stack.duplicate v) :=
    .of_append (.of_vertices rfl) rfl
  refine ⟨hp.with_stack (Stack.sound_push (hp.stack.duplicate v) hpush hlevel.free),
    hcopied.trans (Stack.apart_push.frame (Nat.le_refl _) hcopied.length), fun u hu hor => ?_, ?_⟩
  · obtain rfl : u = p.heads.length := by omega
    exact (Stack.level_push (hp.stack.duplicate v) hlevel hpush rfl).1
  · exact hsupplied ▸ Nat.le_succ _

theorem sound_supplyFirst (ha : a.Regular) (token : Nat) : ∀ (ts : List Nat) {p : Parse},
    p.Sound a text → p.stack.Level rest v → (supplyFirst v token ts p).1.Sound a text ∧
      Stack.Frame p.heads.length p.stack (supplyFirst v token ts p).1.stack
  | [], p, hp, _ => ⟨hp, .refl (Nat.le_refl _)⟩
  | t :: ts, p, hp, hv => by
    rw [supplyFirst]
    dsimp only
    split
    · exact sound_supplyFirst ha token ts hp hv
    rename_i hnext
    simp only [Bool.or_eq_true, decide_eq_true_eq, not_or] at hnext
    obtain ⟨⟨-, hne⟩, -⟩ := hnext
    rw [hp.automaton] at hne ⊢
    obtain ⟨hsound, hframe, hon, hlength⟩ := sound_supplied ha hp hv hne
    have hreaches := reduceAll_reaches ha token hsound hlength (Nat.le_refl _)
      (fun h => absurd h (Nat.lt_irrefl _)) hon
    have hframe := hframe.trans hreaches.frame
    generalize reduceAll _ p.heads.length token = x at hreaches hframe ⊢
    split
    · exact ⟨hreaches.sound, hframe⟩
    · have hrest := sound_supplyFirst ha token ts hreaches.sound
        (hv.frame hp.stack hframe hv.lt)
      exact ⟨hrest.1, hframe.trans (hrest.2.mono hframe.length)⟩

theorem sound_supply (ha : a.Regular) (hp : p.Sound a text) (hv : p.stack.Level rest v)
    (next : Symbol) : (p.supply v next).1.Sound a text ∧
      Stack.Frame p.heads.length p.stack (p.supply v next).1.stack := by
  cases next with
  | token t => exact sound_supplyFirst ha t _ hp hv
  | _ => exact ⟨hp, .refl (Nat.le_refl _)⟩

/-- Readings that stand before a text still do when they or others have been broken off. -/
theorem sound_breakOff (ha : a.Regular) (next : Symbol) : ∀ (vs : List Nat) (supplied : Bool)
    {p : Parse}, p.Sound a text → (∀ v ∈ vs, p.stack.Level rest v) →
      (breakOff next vs supplied p).Sound a text ∧
        ∀ u, p.stack.Level rest u → (breakOff next vs supplied p).stack.Level rest u
  | [], _, _, hp, _ => ⟨hp, fun _ => id⟩
  | v :: vs, supplied, p, hp, hvs => by
    rw [breakOff]
    dsimp only
    have hsupply : (if supplied = true then (p, true) else p.supply v next).1.Sound a text ∧
        ∀ u, p.stack.Level rest u →
          (if supplied = true then (p, true) else p.supply v next).1.stack.Level rest u := by
      split
      · exact ⟨hp, fun _ => id⟩
      · obtain ⟨hsound, hframe⟩ := sound_supply ha hp (hvs v List.mem_cons_self) next
        exact ⟨hsound, fun u hu => hu.frame hp.stack hframe hu.lt⟩
    generalize (if supplied = true then (p, true) else p.supply v next) = x at hsupply ⊢
    obtain ⟨hsound, hkeeps⟩ := hsupply
    have hv := hkeeps v (hvs v List.mem_cons_self)
    have hpush : Stack.Pushable a (x.1.stack.top v) none errorState :=
      ⟨List.nil_prefix, (by simp), fun h => absurd h.symm ha.notError⟩
    have hbroken := Stack.sound_push hsound.stack hpush hv.free
    have hlevel (u : Nat) (hu : x.1.stack.Level rest u) :
        (x.1.stack.push v none errorState).Level rest u := by
      by_cases huv : u = v
      · exact huv ▸ (Stack.level_push hsound.stack hv hpush rfl).1
      · exact Stack.apart_push.beside.level hsound.stack hu huv
    have hrest := sound_breakOff ha next vs x.2
      (hsound.with_stack hbroken)
      fun u hu => hlevel u (hkeeps u (hvs u (List.mem_cons_of_mem _ hu)))
    exact ⟨hrest.1, fun u hu => hrest.2 u (hlevel u (hkeeps u hu))⟩

/-- Readings that were broken off are joined into an earlier one, which stands where it did. -/
theorem sound_joinBroken {v w : Nat} (hvw : v < w) : ∀ (count : Nat) {p : Parse}, p.Sound a text →
    p.stack.Level rest v → (joinBroken v w count p).Sound a text ∧
      (joinBroken v w count p).stack.Level rest v
  | 0, _, hp, hv => ⟨hp, hv⟩
  | count + 1, p, hp, hv => by
    rw [joinBroken]
    cases hjoin : p.stack.join? v w with
    | none => exact sound_joinBroken hvw count hp hv
    | some s =>
      obtain ⟨joined, hjoined, hframe, -, rfl⟩ := Stack.sound_join hp.stack hjoin
      exact sound_joinBroken hvw count (hp.with_stack (hjoined.remove w))
        ((hv.frame hp.stack hframe hv.lt).remove_lt hvw)

/-- **Beginning an error loses no text.** -/
theorem sound_handleError (ha : a.Regular) (hp : p.Sound a text) (hv : p.stack.Level rest v)
    (hfits : lookahead.Fits rest) : (p.handleError v lookahead).Sound a text := by
  rw [handleError]
  dsimp only
  have hon : p.stack.LevelOn rest v p.heads.length := fun u hu hor =>
    hor.resolve_right (Nat.not_le_of_lt hu) ▸ hv
  have hreduced := reduceAll_reaches ha endToken hp (Nat.le_refl _)
    (Nat.le_of_lt hv.lt) (fun _ => rfl) hon
  generalize p.reduceAll v endToken = x at hreduced ⊢
  have hlevels : ∀ u ∈ v :: (List.range x.1.heads.length).drop p.heads.length,
      x.1.stack.Level rest u := by
    intro u hu
    rcases List.mem_cons.mp hu with rfl | hu
    · exact hreduced.level u (Nat.lt_of_lt_of_le hv.lt hreduced.length) (Or.inl rfl)
    · obtain ⟨i, hi, rfl⟩ := List.getElem_of_mem hu
      rw [List.length_drop, List.length_range] at hi
      rw [List.getElem_drop, List.getElem_range]
      exact hreduced.level _ (by rw [heads] at hi; omega) (Or.inr (Nat.le_add_right _ _))
  obtain ⟨hbroken, hkeeps⟩ := sound_breakOff ha lookahead.symbol _ false
    hreduced.sound hlevels
  obtain ⟨hjoined, hlevel⟩ := sound_joinBroken (w := p.heads.length) hv.lt
    (x.1.heads.length - p.heads.length) hbroken
    (hkeeps v (hlevels v List.mem_cons_self))
  refine sound_recover ha (hjoined.with_stack (hjoined.stack.rehead rfl rfl))
    (hlevel.frame hjoined.stack (.rehead rfl rfl) hlevel.lt) hfits

end Parse

end Testsmith.Parsing
