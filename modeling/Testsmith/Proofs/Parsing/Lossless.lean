/-
# Parsing loses no text

Every step of the parser keeps the stack sound, so a tree of the whole text that it comes to spells
the text (`Parse.sound_run`). Where the parser gives up there is no such tree, and an empty error
stands for it (`parseText_cases`).

Key theorems: `Parse.sound_take`, `Parse.sound_condense`, `Parse.sound_run`, `parseText_cases`.
-/
import Testsmith.Parsing.Run
import Testsmith.Proofs.Parsing.Recoveries

namespace Testsmith.Parsing

variable {a : Automaton} {text rest : List Char}

namespace Subtree

/-- The tree of a token that is read stands at the start of what is left. -/
theorem fits_read {l : Lexicon} (hl : l.Proper) {mode : Option Mode} (hmode : ∀ m ∈ mode, m.Proper)
    (admits : Nat → Bool) (atStart : Bool) (cs : List Char) :
    (ofLexeme a (l.read mode admits atStart cs)).Fits cs := by
  refine ⟨⟨_, _, _, rfl⟩, (Extent.ofList_append _ _).symm, Lexicon.read_prefix _ _ _ _, fun h => ?_⟩
  have htoken : (l.read mode admits atStart cs).token = some endToken := by
    have h : (l.read mode admits atStart cs).token.elim Symbol.error Symbol.token =
      .token endToken := h
    cases htoken : (l.read mode admits atStart cs).token with
    | none =>
      rw [htoken] at h
      cases h
    | some token =>
      rw [htoken] at h
      rw [Symbol.token.inj h]
  exact ⟨Lexicon.read_ending hl hmode htoken, decide_eq_true htoken⟩

end Subtree

namespace Parse

variable {p : Parse} {v : Nat} {lookahead : Subtree}

/-! ### Advancing -/

theorem fits_readToken (ha : a.Regular) (hp : p.Sound a text) (v : Nat) :
    (p.readToken v).Fits (p.stack.top v).rest := by
  rw [readToken, hp.automaton]
  refine Subtree.fits_read ha.lexicon (fun m hm => ?_) _ _ _
  rw [Automaton.modeOf] at hm
  split at hm
  · cases hm
  · exact ha.lexicon.modes m (Array.mem_of_getElem? hm)

/-- Only tokens are moved. -/
theorem move_spec {state : Nat} {symbol : Symbol} {move : Move}
    (h : (a.actions state symbol).move = some move) :
    ∃ token, symbol = .token token ∧ a.move? state token = some move := by
  cases symbol with
  | token t => exact ⟨t, rfl, h⟩
  | _ => cases h

/-- A token that fits is put on a reading. -/
theorem sound_shift (hp : p.Sound a text) (hv : p.stack.Level rest v) (hfits : lookahead.Fits rest)
    (hne : lookahead.symbol ≠ .error) {extra : Bool} {state : Nat}
    (hlast : state = a.acceptState → extra = true ∧ p.state v = a.acceptState) :
    (p.onStack (·.push v (some (lookahead.withExtra extra)) state)).Sound a text := by
  refine hp.with_stack (Stack.sound_push hp.stack ⟨?_, fun t ht => ?_, fun h => ?_⟩ hv.free)
  · rw [hv.rest, Subtree.charsOn, Subtree.chars_withExtra]
    exact hfits.here
  · exact Option.some.inj ht ▸ (hfits.sound hne).withExtra extra
  · obtain ⟨hextra, hstate⟩ := hlast h
    exact ⟨_, rfl, Or.inr ⟨by rw [Subtree.isExtra_withExtra, hextra], hstate⟩⟩

/-- **Taking a token loses no text.** The induction is on the reductions that are made before. -/
theorem sound_take (ha : a.Regular) : ∀ {bound : Nat} {lookahead : Subtree} {p : Parse},
    p.Sound a text → p.stack.Level rest v → lookahead.Fits rest →
      (take v bound lookahead p).Sound a text
  | 0, _, _, hp, _, _ => sound_halt hp v
  | bound + 1, lookahead, p, hp, hv, hfits => by
    rw [take]
    dsimp only
    have hon : p.stack.LevelOn rest p.heads.length p.heads.length := fun u hu hor =>
      absurd hu (by rw [heads] at hor; omega)
    obtain ⟨hreduced, hlast⟩ := reduceFold_reaches ha (n := p.heads.length) (v := v)
      (fun x r => ((x.1.reduce v r).1, (x.1.reduce v r).2.or x.2))
      (fun x r => ⟨rfl, fun w hw => (Option.or_eq_some_iff.mp hw).imp_right And.right⟩)
      (p.automaton.actions (p.state v) lookahead.symbol).reductions (x := (p, none)) hp
      (Nat.le_refl _) hv.lt hv hon (by simp)
    generalize List.foldl _ (p, none) _ = x at hreduced hlast ⊢
    obtain ⟨q, last⟩ := x
    have hq : q.Sound a text := hreduced.sound
    have hframe : Stack.Frame p.heads.length p.stack q.stack := hreduced.frame
    have hqv := hv.frame hp.stack hframe hv.lt
    have hstate : q.state v = p.state v := (hframe.top hp.stack hv.lt).state
    rw [hp.automaton]
    dsimp only
    split
    · rename_i next hmove
      obtain ⟨token, htoken, hmove⟩ := move_spec hmove
      refine sound_shift hq hqv hfits (by rw [htoken]; simp) fun h => ?_
      have hshift : a.shift? (p.state v) token = some next := Automaton.move?_spec hmove
      exact absurd (h ▸ hshift) (ha.shifts _ _)
    · rename_i hmove
      obtain ⟨token, htoken, -⟩ := move_spec hmove
      exact sound_shift hq hqv hfits (by rw [htoken]; simp) fun h => ⟨rfl, hstate.trans h⟩
    · rename_i hmove
      obtain ⟨token, htoken, hmove⟩ := move_spec hmove
      obtain ⟨rfl, haccept⟩ := Automaton.move?_spec hmove
      exact sound_accept ha hq hqv hfits htoken
        (Stack.closing_of_state hq.stack (hq.stack.head v).vertex (hstate.trans haccept))
    · exact sound_recover ha hq hqv hfits
    all_goals
      split
      · rename_i w
        obtain ⟨hw, hwq⟩ := hlast w rfl
        refine sound_take ha (hq.with_stack (hq.stack.replaceBy v w))
          (Stack.level_replaceBy ?_ (Nat.lt_of_lt_of_le hv.lt hw)) hfits
        exact hreduced.level w hwq (Or.inr hw)
      split
      · exact sound_halt hq v
      split
      · rw [hq.automaton]
        exact sound_take ha hq hqv (hfits.withToken ha.lexicon.word)
      split
      · exact sound_recover ha hq hqv hfits
      · refine hq.with_stack (hq.stack.setHead ?_ v)
        refine ⟨(hq.stack.head v).vertex, fun t ht => ?_⟩
        have hrest : (q.stack.top v).rest = rest := hqv.rest
        obtain rfl := Activity.stuck.inj ht
        exact hrest.symm ▸ hfits

theorem sound_advance (ha : a.Regular) (hp : p.Sound a text) (hlt : v < p.heads.length)
    (hactive : (p.stack.head v).isActive = true) : (p.advance v).Sound a text := by
  refine sound_take ha hp ⟨hlt, rfl, fun t ht => ?_⟩ (fits_readToken ha hp v)
  rw [Head.isActive, ht] at hactive
  cases hactive

theorem sound_advanceUntil (ha : a.Regular) : ∀ {bound furthest : Nat} {p : Parse},
    p.Sound a text → (advanceUntil v bound furthest p).1.Sound a text
  | 0, _, _, hp => hp
  | bound + 1, furthest, p, hp => by
    rw [advanceUntil]
    split
    · exact hp
    rename_i hgo
    simp only [Bool.or_eq_true, decide_eq_true_eq, not_or, Nat.not_le, Bool.not_eq_true',
      Bool.not_eq_false] at hgo
    have hnext := sound_advance ha hp hgo.1 hgo.2
    dsimp only
    split
    · exact hnext
    · split
      · exact hnext
      · exact sound_advanceUntil ha hnext

theorem sound_advanceAll (ha : a.Regular) (length : Nat) : ∀ (bound v furthest : Nat) {p : Parse},
    p.Sound a text → (advanceAll length bound v furthest p).1.Sound a text
  | 0, _, _, _, hp => hp
  | bound + 1, v, furthest, p, hp => by
    rw [advanceAll]
    split
    · exact hp
    · exact sound_advanceAll ha length bound _ _ (sound_advanceUntil ha hp)

/-! ### Weighing -/

theorem sound_settle {mine : Standing} : ∀ {distance v : Nat} {p : Parse}, p.Sound a text →
    (settle mine distance v p).2.Sound a text
  | 0, _, _, hp => hp
  | distance + 1, v, p, hp => by
    have hlower := (steady_lowerBase hp (v - (distance + 1))).sound
    have hjoined {s : Stack} (hjoin : (p.onStack (·.lowerBase (v - (distance + 1)))).stack.join?
        (v - (distance + 1)) v = some s) : s.Sound a text := by
      obtain ⟨joined, hsound, -, -, rfl⟩ := Stack.sound_join hlower.stack hjoin
      exact hsound.remove v
    rw [settle]
    split
    · exact hlower.with_stack (hlower.stack.remove v)
    · exact sound_settle (hlower.with_stack (hlower.stack.remove _))
    · split
      · rename_i hjoin
        exact hlower.with_stack (hjoined hjoin)
      · exact sound_settle (hlower.with_stack (hlower.stack.swap _ v))
    · split
      · rename_i hjoin
        exact hlower.with_stack (hjoined hjoin)
      · exact sound_settle hlower

theorem sound_settleAll : ∀ (bound v : Nat) (least : Option Nat) {p : Parse}, p.Sound a text →
    (settleAll bound v least p).2.Sound a text
  | 0, _, _, _, hp => hp
  | bound + 1, v, least, p, hp => by
    rw [settleAll]
    split
    · exact hp
    split
    · exact sound_settleAll bound _ _ (hp.with_stack (hp.stack.remove v))
    · exact sound_settleAll bound _ _ (sound_settle (steady_lowerBase hp v).sound)

theorem sound_wake (ha : a.Regular) : ∀ {bound v count : Nat} {awake : Bool} {least : Option Nat}
    {p : Parse}, p.Sound a text → (wake bound v count awake least p).2.Sound a text
  | 0, _, _, _, _, _, hp => hp
  | bound + 1, v, count, awake, least, p, hp => by
    rw [wake]
    split
    · exact hp
    split
    · rename_i lookahead hstuck
      split
      · have hlt : v < p.stack.heads.length := by
          rcases Nat.lt_or_ge v p.stack.heads.length with hlt | hge
          · exact hlt
          · rw [Stack.head, List.getD_eq_getElem?_getD, List.getElem?_eq_none hge] at hstuck
            cases hstuck
        have hactive : (p.stack.setActivity v .active).Level (p.stack.top v).rest v := by
          refine ⟨by rw [Stack.setActivity, Stack.length_setHead]; exact hlt, ?_, fun t => ?_⟩
          · rw [Stack.top, Stack.setActivity, Stack.head_setHead_self hlt]
            rfl
          · rw [Stack.setActivity, Stack.head_setHead_self hlt]
            simp
        exact sound_wake ha (sound_handleError ha (hp.with_stack (hp.stack.setActivity (by simp)))
          hactive ((hp.stack.head v).stuck lookahead hstuck))
      · exact sound_wake ha (hp.with_stack (hp.stack.remove v))
    · exact sound_wake ha hp

theorem sound_condense (ha : a.Regular) (hp : p.Sound a text) : p.condense.2.Sound a text := by
  have hsettled := sound_settleAll (2 * p.heads.length + 1) 0 none hp
  exact sound_wake ha (hsettled.with_stack (hsettled.stack.truncate maxReadings))

/-! ### The whole text -/

theorem sound_run (ha : a.Regular) (length : Nat) : ∀ (bound furthest : Nat) {p : Parse},
    p.Sound a text → (run length bound furthest p).Sound a text
  | 0, _, _, hp => hp
  | bound + 1, furthest, p, hp => by
    have hnext := sound_condense ha (sound_advanceAll ha length length 0 furthest hp)
    rw [run]
    dsimp only
    split
    · exact hnext
    · exact sound_run ha length bound _ hnext

end Parse

/-- **The tree of a text spells it**, unless the parser has given up. -/
theorem parseText_cases (ha : a.Regular) (text : List Char) :
    parseText a text = .build a .error [] ∨
      (parseText a text).chars = text ∧ (parseText a text).Whole a := by
  have hsound := Parse.sound_run ha (64 * (text.length + 16)) (64 * (text.length + 16)) 0
    (p := Parse.ofText a text)
    ⟨rfl, Stack.sound_ofText text, fun t ht => by cases ht⟩
  rw [parseText]
  generalize Parse.run _ _ 0 (Parse.ofText a text) = p at hsound ⊢
  cases hfinished : p.finished with
  | none => exact Or.inl rfl
  | some t => exact Or.inr (hsound.finished t hfinished)

end Testsmith.Parsing
