/-
# Patterns for one text

A text that is escaped is a pattern, and it matches that text alone (`isMatch_escape`). A pattern
without wildcards matches the text it stands for, and has no character that is not in its own text.

Key definitions: `escapedToken`.
Key theorems: `parse_escape`, `isMatch_escape`, `isMatch_of_literal?`, `mem_of_parse`.
-/
import Mathlib.Data.List.Basic
import Testsmith.Glob.Pattern

namespace Testsmith.Glob

/-! ### Escaped texts -/

/-- The characters that `escape` puts in brackets. -/
def IsSpecial (c : Char) : Prop := c ∈ ['?', '*', '[', ']']

instance (c : Char) : Decidable (IsSpecial c) := inferInstanceAs (Decidable (c ∈ _))

/-- What a character is escaped to. -/
def escapedChars (c : Char) : List Char := if IsSpecial c then ['[', c, ']'] else [c]

/-- What an escaped character is read as. -/
def escapedToken (c : Char) : Token := if IsSpecial c then .oneOf [.one c] true else .char c

theorem toList_escape (s : String) : (escape s).toList = s.toList.flatMap escapedChars := by
  rw [escape, String.toList_ofList]
  refine List.flatMap_congr fun c _ => ?_
  by_cases h : IsSpecial c
  · rw [escapedChars, if_pos h, if_pos (List.contains_iff_mem.mpr h)]
  · rw [escapedChars, if_neg h, if_neg fun hc => h (List.contains_iff_mem.mp hc)]

/-- A character that is not special is read as itself. -/
theorem readTokens_plain {c : Char} (h : ¬IsSpecial c) (bound position : Nat) (start : Bool)
    (tokens : List Token) (cs : List Char) :
    readTokens (bound + 1) position start tokens (c :: cs) =
      readTokens bound (position + 1) (c == '/') (tokens ++ [.char c]) cs := by
  simp only [IsSpecial, List.mem_cons, List.not_mem_nil, or_false, not_or] at h
  exact readTokens.eq_6 _ _ _ _ _ _ h.1 h.2.1 h.2.2.1

/-- A special one in brackets is read as a class of its own. -/
theorem readTokens_special {c : Char} (h : IsSpecial c) (bound position : Nat) (start : Bool)
    (tokens : List Token) (cs : List Char) :
    readTokens (bound + 1) position start tokens ('[' :: c :: ']' :: cs) =
      readTokens bound (position + 3) false (tokens ++ [.oneOf [.one c] true]) cs := by
  simp only [IsSpecial, List.mem_cons, List.not_mem_nil, or_false] at h
  rcases h with rfl | rfl | rfl | rfl <;> rw [readTokens.eq_5] <;> rfl

theorem readTokens_escaped : ∀ (cs : List Char) {bound : Nat} (position : Nat) (start : Bool)
    (tokens : List Token), (cs.flatMap escapedChars).length ≤ bound →
      readTokens bound position start tokens (cs.flatMap escapedChars) =
        .ok (tokens ++ cs.map escapedToken)
  | [], bound, _, _, tokens, _ => by
    rw [List.flatMap_nil, List.map_nil, List.append_nil]
    cases bound <;> rfl
  | c :: cs, bound, position, start, tokens, hbound => by
    rw [List.flatMap_cons, List.length_append] at hbound
    rw [List.flatMap_cons, List.map_cons, escapedToken]
    by_cases h : IsSpecial c
    · rw [escapedChars, if_pos h, List.length_cons] at hbound
      obtain ⟨bound, rfl⟩ : ∃ n, bound = n + 1 := ⟨bound - 1, by omega⟩
      rw [escapedChars, if_pos h, if_pos h]
      simp only [List.cons_append, List.nil_append]
      rw [readTokens_special h, readTokens_escaped cs _ _ _ (by omega), List.append_assoc]
      rfl
    · rw [escapedChars, if_neg h, List.length_singleton] at hbound
      obtain ⟨bound, rfl⟩ : ∃ n, bound = n + 1 := ⟨bound - 1, by omega⟩
      rw [escapedChars, if_neg h, if_neg h, List.singleton_append, readTokens_plain h,
        readTokens_escaped cs _ _ _ (by omega), List.append_assoc]
      rfl

/-- **An escaped text is a pattern.** -/
theorem parse_escape (s : String) : Pattern.parse (escape s) = .ok ⟨s.toList.map escapedToken⟩ := by
  have h := readTokens_escaped s.toList 0 true [] (Nat.le_refl _)
  rw [Pattern.parse, ← String.length_toList, toList_escape, h]
  rfl

theorem escapedToken_accepts (c d : Char) : (escapedToken c).accepts d = (d == c) := by
  rw [escapedToken]
  split
  · simp [Token.accepts, Member.holds]
  · rfl

/-- Tokens for one character each match the text of these characters and no other one. -/
theorem matchesFrom_map {token : Char → Token}
    (h : ∀ c d, (token c).accepts d = (d == c)) : ∀ (cs ds : List Char) (atStart : Bool),
      matchesFrom (cs.map token) atStart ds = (ds == cs)
  | [], ds, _ => by cases ds <;> rfl
  | c :: cs, ds, _ => by
    have hone {t : Token} (ht : ∀ d, t.accepts d = false) : token c ≠ t := by
      intro he
      have hself := h c c
      rw [he, ht] at hself
      simp at hself
    have hsequence := hone (t := .sequence) fun _ => rfl
    have hcomponents := hone (t := .components) fun _ => rfl
    rw [List.map_cons]
    cases ds with
    | nil => exact matchesFrom.eq_4 _ _ _ hsequence hcomponents
    | cons d ds =>
      rw [matchesFrom.eq_5 _ _ _ _ _ hsequence hcomponents, h, matchesFrom_map h cs ds]
      rfl

/-- **An escaped text matches itself alone.** -/
theorem isMatch_escape (s text : String) :
    Pattern.isMatch ⟨s.toList.map escapedToken⟩ text = true ↔ text = s := by
  rw [Pattern.isMatch, matchesFrom_map escapedToken_accepts, beq_iff_eq, String.toList_inj]

/-! ### Patterns without wildcards -/

theorem eq_map_of_mapM : ∀ {ts : List Token} {cs : List Char},
    ts.mapM Token.literal? = some cs → ts = cs.map .char
  | [], cs, h => by
    obtain rfl : [] = cs := Option.some.inj h
    rfl
  | t :: ts, cs, h => by
    rw [List.mapM_cons] at h
    obtain ⟨c, hc, h⟩ := Option.bind_eq_some_iff.mp h
    obtain ⟨rest, hrest, h⟩ := Option.bind_eq_some_iff.mp h
    obtain rfl : c :: rest = cs := Option.some.inj h
    rw [List.map_cons, ← eq_map_of_mapM hrest]
    cases t <;> simp_all [Token.literal?]

theorem tokens_of_literal? {p : Pattern} {name : String} (h : p.literal? = some name) :
    p.tokens = name.toList.map .char := by
  obtain ⟨cs, hcs, rfl⟩ := Option.map_eq_some_iff.mp h
  rw [String.toList_ofList, eq_map_of_mapM hcs]

/-- A pattern without wildcards matches the text that it stands for. -/
theorem isMatch_of_literal? {p : Pattern} {name : String} (h : p.literal? = some name) :
    p.isMatch name = true := by
  rw [Pattern.isMatch, tokens_of_literal? h, matchesFrom_map fun _ _ => rfl, beq_self_eq_true]

/-! ### The characters of a pattern -/

/-- A class is no character, and what follows it stands behind it. -/
theorem readClass_rest {cs rest : List Char} {token : Token} {length : Nat}
    (h : readClass cs = some (token, length, rest)) : token.literal? = none ∧ rest ⊆ cs := by
  unfold readClass at h
  dsimp only at h
  split at h
  · cases h
  · rename_i first more hcs
    split at h
    · cases h
    · rename_i c after hafter
      simp only [Option.some.injEq, Prod.mk.injEq] at h
      obtain ⟨rfl, -, rfl⟩ := h
      have hbody : first :: more ⊆ cs := by
        rw [← hcs]
        split
        · exact List.subset_cons_self _ _
        · exact List.Subset.refl _
      have hsuffix := (List.dropWhile_suffix (l := more) (· != ']')).subset
      rw [hafter] at hsuffix
      exact ⟨rfl, fun d hd =>
        hbody (List.mem_cons_of_mem _ (hsuffix (List.mem_cons_of_mem _ hd)))⟩

section
variable {c : Char} {bound : Nat} {ts : List Token}
  (ih : ∀ {position : Nat} {start : Bool} {tokens : List Token} {cs : List Char},
    readTokens bound position start tokens cs = .ok ts → .char c ∈ ts → .char c ∈ tokens ∨ c ∈ cs)

include ih

/-- A token that is added is none for the character, or the character was read. -/
theorem mem_of_readTokens_added {position : Nat} {start : Bool} {tokens : List Token}
    {cs rest : List Char} {d : Char} {t : Token}
    (h : readTokens bound position start (tokens ++ [t]) rest = .ok ts) (hc : .char c ∈ ts)
    (hsub : rest ⊆ cs) (ht : .char c = t → c = d) : .char c ∈ tokens ∨ c ∈ d :: cs := by
  rcases ih h hc with hc | hc
  · rcases List.mem_append.mp hc with hc | hc
    · exact Or.inl hc
    · exact Or.inr (List.mem_cons.mpr (Or.inl (ht (List.mem_singleton.mp hc))))
  · exact Or.inr (List.mem_cons_of_mem _ (hsub hc))

/-- Of stars no character comes. -/
theorem mem_of_readTokens_star {position : Nat} {start : Bool} {tokens : List Token}
    {cs : List Char} (h : readTokens (bound + 1) position start tokens ('*' :: cs) = .ok ts)
    (hc : .char c ∈ ts) : .char c ∈ tokens ∨ c ∈ '*' :: cs := by
  rw [readTokens.eq_4] at h
  have longer {p : Prop} [Decidable p] :
      .char c ∈ (if p then tokens else tokens ++ [.components]) → .char c ∈ tokens := by
    split <;> simp
  have hsuffix := (List.dropWhile_suffix (l := cs) (· == '*')).subset
  split at h
  · exact mem_of_readTokens_added ih h hc (List.Subset.refl _) (fun he => by cases he)
  split at h
  · cases h
  split at h
  · cases h
  dsimp only at h
  split at h
  · exact Or.inl (longer (Except.ok.inj h ▸ hc))
  · rename_i rest hrest
    rw [hrest] at hsuffix
    rcases ih h hc with hc | hc
    · exact Or.inl (longer hc)
    · exact Or.inr (List.mem_cons_of_mem _ (hsuffix (List.mem_cons_of_mem _ hc)))
  · cases h

end

/-- A character that a pattern has to find is one of its text. -/
theorem mem_of_readTokens {c : Char} : ∀ (bound : Nat) {position : Nat} {start : Bool}
    {tokens ts : List Token} {cs : List Char},
    readTokens bound position start tokens cs = .ok ts → .char c ∈ ts → .char c ∈ tokens ∨ c ∈ cs
  | 0, position, start, tokens, ts, cs, h, hc => by
    rw [readTokens.eq_1] at h
    exact Or.inl (Except.ok.inj h ▸ hc)
  | bound + 1, position, start, tokens, ts, [], h, hc => by
    rw [readTokens.eq_2 _ _ _ _ (Nat.succ_ne_zero bound)] at h
    exact Or.inl (Except.ok.inj h ▸ hc)
  | bound + 1, position, start, tokens, ts, d :: cs, h, hc => by
    have ih {position : Nat} {start : Bool} {tokens : List Token} {cs : List Char} :
        readTokens bound position start tokens cs = .ok ts → .char c ∈ ts →
          .char c ∈ tokens ∨ c ∈ cs := mem_of_readTokens bound
    by_cases hany : d = '?'
    · rw [hany, readTokens.eq_3] at h
      exact mem_of_readTokens_added ih h hc (List.Subset.refl _) (fun he => by cases he)
    by_cases hstar : d = '*'
    · subst hstar
      exact mem_of_readTokens_star ih h hc
    by_cases hclass : d = '['
    · rw [hclass, readTokens.eq_5] at h
      split at h
      · rename_i token length rest hread
        obtain ⟨hnone, hsub⟩ := readClass_rest hread
        refine mem_of_readTokens_added ih h hc hsub fun he => ?_
        rw [← he] at hnone
        cases hnone
      · cases h
    rw [readTokens.eq_6 _ _ _ _ _ _ hany hstar hclass] at h
    exact mem_of_readTokens_added ih h hc (List.Subset.refl _) Token.char.inj

theorem mem_of_parse {text : String} {p : Pattern} (h : Pattern.parse text = .ok p) {c : Char}
    (hc : .char c ∈ p.tokens) : c ∈ text.toList := by
  rw [Pattern.parse] at h
  cases hread : readTokens text.length 0 true [] text.toList with
  | error e =>
    rw [hread] at h
    cases h
  | ok ts =>
    rw [hread] at h
    obtain rfl := Except.ok.inj h
    exact (mem_of_readTokens _ hread hc).resolve_left List.not_mem_nil

end Testsmith.Glob
