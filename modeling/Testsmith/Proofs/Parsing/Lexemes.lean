/-
# Tokens cover the text

A token that is read begins where the text does: the blanks before it and its own text are the start
of what is left (`Lexicon.read_prefix`). The token at the end of a text takes all that is left
(`Lexicon.read_ending`), if no other token goes by its number.

Key definitions: `Mode.Proper`, `Lexicon.Proper`.
Key theorems: `Lexicon.read_prefix`, `Lexicon.read_ending`.
-/
import Testsmith.Parsing.Lexicon

namespace Testsmith.Parsing

/-! ### The end of a text -/

/-- No token of the mode goes by the number of the end. -/
def Mode.Proper (mode : Mode) : Prop := ∀ r ∈ mode.rules, r.token ≠ endToken

instance (mode : Mode) : Decidable mode.Proper :=
  inferInstanceAs (Decidable (∀ r ∈ mode.rules, r.token ≠ endToken))

/-- No token goes by the number of the end. -/
structure Lexicon.Proper (l : Lexicon) : Prop where
  modes : ∀ mode ∈ l.modes, mode.Proper
  loose : l.looseMode.Proper
  word : l.word ≠ endToken
  keywords : ∀ k ∈ l.keywords, k.2 ≠ endToken

namespace Scan

variable {s next : Scan} {mode : Mode} {c : Char}

/-- No token that has been begun goes by the number of the end. -/
def Proper (s : Scan) : Prop := ∀ r ∈ s.live, r.rule.token ≠ endToken

theorem proper_note (h : s.Proper) : s.note.Proper := by
  rw [note]
  split <;> exact h

@[simp]
theorem read_note (s : Scan) : s.note.read = s.read := by
  rw [note]
  split <;> rfl

theorem rule_of_complete? {rule : TokenRule} (h : s.complete? = some rule) :
    ∃ r ∈ s.live, r.rule = rule := by
  rw [complete?] at h
  refine List.foldlRecOn (motive := fun best => ∀ rule, best = some rule →
    ∃ r ∈ s.live, r.rule = rule) s.live _ (by simp) (fun best hbest r hr rule h => ?_) rule h
  have hown : ∃ u ∈ s.live, u.rule = r.rule := ⟨r, hr, rfl⟩
  split at h
  · split at h
    · split at h
      · exact Option.some.inj h ▸ hown
      · exact hbest _ h
    · exact Option.some.inj h ▸ hown
  · exact hbest _ h

theorem found_note (h : s.Proper) {stop : Nat} (hfound : s.note.found = some (endToken, stop)) :
    s.found = some (endToken, stop) := by
  rw [note] at hfound
  split at hfound
  · rename_i rule hrule
    obtain ⟨r, hr, rfl⟩ := rule_of_complete? hrule
    exact absurd (Prod.mk.inj (Option.some.inj hfound)).1 (h r hr)
  · exact hfound

theorem step?_spec (hmode : mode.Proper) (h : s.Proper) (hstep : s.step? mode c = some next) :
    next.Proper ∧ next.read = s.read + 1 ∧ next.found = s.found := by
  rw [step?] at hstep
  obtain ⟨-, hnext⟩ := Option.ite_none_left_eq_some.mp hstep
  obtain rfl := Option.some.inj hnext
  refine ⟨?_, rfl, rfl⟩
  intro r hr
  rcases List.mem_append.mp hr with hr | hr
  · obtain ⟨u, hu, hgo⟩ := List.mem_filterMap.mp hr
    rw [Residual.continue?] at hgo
    split at hgo
    · cases hgo
    · obtain rfl := Option.some.inj hgo
      exact h u hu
  · split at hr
    · obtain ⟨u, hu, hgo⟩ := List.mem_filterMap.mp hr
      rw [TokenRule.begin?] at hgo
      split at hgo
      · cases hgo
      · split at hgo
        · cases hgo
        · obtain rfl := Option.some.inj hgo
          exact hmode u hu
    · cases hr

end Scan

namespace Mode

variable {mode : Mode}

/-- The end is only found when all has been read. -/
theorem scanFrom_ending (hmode : mode.Proper) : ∀ {cs : List Char} {s : Scan} {stop : Nat},
    s.Proper → (mode.scanFrom s cs).found = some (endToken, stop) →
      s.found = some (endToken, stop) ∨ stop = s.read + cs.length
  | [], s, stop, h, hfound => by
    rw [scanFrom] at hfound
    split at hfound
    · exact Or.inr (Prod.mk.inj (Option.some.inj hfound)).2.symm
    · exact Or.inl (Scan.found_note h hfound)
  | c :: cs, s, stop, h, hfound => by
    rw [scanFrom] at hfound
    split at hfound
    · rename_i next hnext
      obtain ⟨hproper, hread, hsame⟩ := Scan.step?_spec hmode (Scan.proper_note h) hnext
      rcases scanFrom_ending hmode hproper hfound with hend | hend
      · exact Or.inl (Scan.found_note h (hsame ▸ hend))
      · rw [hread, Scan.read_note] at hend
        exact Or.inr (by rw [hend, List.length_cons]; omega)
    · exact Or.inl (Scan.found_note h hfound)

theorem scan_ending (hmode : mode.Proper) {cs : List Char} {stop : Nat}
    (hfound : (mode.scan cs).found = some (endToken, stop)) : stop = cs.length := by
  have hstart : mode.start.Proper := by
    intro r hr
    obtain ⟨u, hu, rfl⟩ := List.mem_map.mp hr
    exact hmode u (List.mem_filter.mp hu).1
  rcases scanFrom_ending hmode hstart hfound with h | h
  · cases h
  · simpa [Mode.start] using h

end Mode

/-! ### What a token takes -/

namespace Lexeme

/-- All that the token takes: what stands before it, and its text. -/
def chars (x : Lexeme) : List Char := x.lead ++ x.text

end Lexeme

namespace Lexicon

variable {l : Lexicon} {admits : Nat → Bool} {s : Scan} {cs : List Char}

theorem stray_prefix (s : Scan) (cs : List Char) : (l.stray s cs).chars <+: cs := by
  rw [stray, Lexeme.chars]
  conv => rhs; rw [← List.take_append_drop s.lead cs]
  exact (List.prefix_append_right_inj _).mpr (List.take_prefix _ _)

theorem lexeme_prefix (s : Scan) (token stop : Nat) (cs : List Char) :
    (l.lexeme admits s token stop cs).chars <+: cs := by
  rw [lexeme, Lexeme.chars]
  conv => rhs; rw [← List.take_append_drop s.lead cs]
  refine (List.prefix_append_right_inj _).mpr ?_
  rw [List.drop_take]
  exact List.take_prefix _ _

theorem lexeme_ending (hl : l.Proper) {token stop : Nat}
    (hstop : token = endToken → stop = cs.length)
    (h : (l.lexeme admits s token stop cs).token = some endToken) :
    (l.lexeme admits s token stop cs).chars = cs := by
  have htoken : token = endToken := by
    rw [lexeme] at h
    have h := Option.some.inj h
    split at h
    · rename_i hword
      split at h
      · rename_i k hk
        split at h
        · obtain ⟨before, after, hin, -⟩ := List.lookup_eq_some_iff.mp hk
          exact absurd h (hl.keywords _ (hin ▸ List.mem_append_right _ List.mem_cons_self))
        · exact absurd (hword.symm.trans h) hl.word
      · exact absurd (hword.symm.trans h) hl.word
    · exact h
  rw [lexeme, Lexeme.chars, hstop htoken, List.take_length, List.take_append_drop]

/-- What is read is a token of a mode, or a stray stretch. -/
theorem readIn_cases (l : Lexicon) (admits : Nat → Bool) (mode : Option Mode) (cs : List Char) :
    (∃ m token stop, (m = l.looseMode ∨ m ∈ mode) ∧ (m.scan cs).found = some (token, stop) ∧
        l.readIn mode admits cs = l.lexeme admits (m.scan cs) token stop cs) ∨
      l.readIn mode admits cs = l.stray (l.looseMode.scan cs) cs := by
  have hloose : (∃ token stop, (l.looseMode.scan cs).found = some (token, stop) ∧
      l.readIn none admits cs = l.lexeme admits (l.looseMode.scan cs) token stop cs) ∨
      l.readIn none admits cs = l.stray (l.looseMode.scan cs) cs := by
    unfold readIn
    dsimp only
    split
    · rename_i token stop hfound
      exact Or.inl ⟨token, stop, hfound, rfl⟩
    · exact Or.inr rfl
  cases mode with
  | none => exact hloose.imp_left fun ⟨token, stop, hfound, hread⟩ =>
      ⟨_, token, stop, Or.inl rfl, hfound, hread⟩
  | some m =>
    cases hfound : (m.scan cs).found with
    | some found =>
      refine Or.inl ⟨m, found.1, found.2, Or.inr rfl, hfound, ?_⟩
      unfold readIn
      dsimp only
      rw [hfound]
    | none =>
      have hsame : l.readIn (some m) admits cs = l.readIn none admits cs := by
        unfold readIn
        dsimp only
        rw [hfound]
      rw [hsame]
      exact hloose.imp_left fun ⟨token, stop, hfound, hread⟩ =>
        ⟨_, token, stop, Or.inl rfl, hfound, hread⟩

theorem readIn_prefix (mode : Option Mode) (cs : List Char) :
    (l.readIn mode admits cs).chars <+: cs := by
  rcases readIn_cases l admits mode cs with ⟨m, token, stop, -, -, hread⟩ | hread
  · exact hread ▸ lexeme_prefix _ _ _ _
  · exact hread ▸ stray_prefix _ _

theorem readIn_ending (hl : l.Proper) {mode : Option Mode} (hmode : ∀ m ∈ mode, m.Proper)
    (h : (l.readIn mode admits cs).token = some endToken) :
    (l.readIn mode admits cs).chars = cs := by
  rcases readIn_cases l admits mode cs with
    ⟨m, token, stop, hm, hfound, hread⟩ | hread
  · have hproper : m.Proper := hm.elim (fun hm => hm ▸ hl.loose) (hmode m)
    rw [hread] at h ⊢
    refine lexeme_ending hl (fun htoken => ?_) h
    rw [htoken] at hfound
    exact Mode.scan_ending hproper hfound
  · rw [hread] at h
    cases h

/-- **A token begins where the text does.** -/
theorem read_prefix (mode : Option Mode) (admits : Nat → Bool) (atStart : Bool) (cs : List Char) :
    (l.read mode admits atStart cs).chars <+: cs := by
  unfold read
  split
  · split
    · exact (List.prefix_append_right_inj [_]).mpr <| readIn_prefix mode _
    · exact readIn_prefix mode _
  · exact readIn_prefix mode _

/-- **The end of the text takes all that is left.** -/
theorem read_ending (hl : l.Proper) {mode : Option Mode} (hmode : ∀ m ∈ mode, m.Proper)
    {atStart : Bool} (h : (l.read mode admits atStart cs).token = some endToken) :
    (l.read mode admits atStart cs).chars = cs := by
  unfold read at h ⊢
  split at h
  · rename_i c rest
    split at h
    · rename_i hmark
      rw [if_pos hmark]
      exact congrArg (c :: ·) (readIn_ending hl hmode h)
    · rename_i hmark
      rw [if_neg hmark]
      exact readIn_ending hl hmode h
  · exact readIn_ending hl hmode h

end Lexicon

end Testsmith.Parsing
