/-
# Fences around a reply

A fence around a text says nothing: the code in a reply that is put between an opening line with
three backticks and a closing fence is the code in the reply itself (`stripFencesList_enclose`).
This holds of every text that does not begin with a fence itself, whatever stands on the opening
line behind the backticks, and with any blanks before, between and after the fences.

Key definitions: `Unfenced`, `Fencing`, `Fencing.enclose`, `Fencing.around`.
Key theorems: `afterFirstLine_line`, `stripFencesList_enclose`.
-/
import Testsmith.Proofs.Text.Stretch
import Testsmith.Reply

namespace Testsmith

open Text

/-- The text does not begin with a fence, blanks aside. -/
def Unfenced (cs : List Char) : Prop := ¬fence <+: trimList cs

instance (cs : List Char) : Decidable (Unfenced cs) := inferInstanceAs (Decidable ¬_)

/-- The fences around a text, with what stands behind the opening one and the blanks at both. -/
structure Fencing where
  before : List Char
  /-- What stands on the line of the opening fence behind it. -/
  info : List Char
  /-- Between the line feed after the text and the closing fence. -/
  between : List Char
  after : List Char
  blank_before : ∀ c ∈ before, isBlank c = true
  not_newline_info : '\n' ∉ info
  blank_between : ∀ c ∈ between, isBlank c = true
  blank_after : ∀ c ∈ after, isBlank c = true

namespace Fencing

/-- The text between its fences. -/
def enclose (f : Fencing) (cs : List Char) : List Char :=
  f.before ++ (fence ++ (f.info ++ '\n' :: (cs ++ '\n' :: (f.between ++ fence)))) ++ f.after

/-- The text between its fences. -/
def around (f : Fencing) (s : String) : String := String.ofList (f.enclose s.toList)

end Fencing

theorem afterStart?_eq_none_iff {start cs : List Char} :
    afterStart? start cs = none ↔ ¬start <+: cs := by
  rw [Option.eq_none_iff_forall_ne_some]
  constructor
  · rintro h ⟨rest, hrest⟩
    exact h rest (afterStart?_eq_some_iff.mpr hrest.symm)
  · intro h rest hrest
    exact h ⟨rest, (afterStart?_eq_some_iff.mp hrest).symm⟩

/-- The code in a text without a fence is the text, but for the blanks around it. -/
theorem stripFencesList_of_unfenced {cs : List Char} (h : Unfenced cs) :
    stripFencesList cs = trimList cs := by
  rw [stripFencesList, afterStart?_eq_none_iff.mpr h]

theorem afterFirstLine_line {line : List Char} (rest : List Char) (h : '\n' ∉ line) :
    afterFirstLine (line ++ '\n' :: rest) = rest := by
  have hdrop : (line ++ '\n' :: rest).dropWhile (· != '\n') = '\n' :: rest := by
    rw [List.dropWhile_append_of_pos fun c hc => ?_]
    · rfl
    · have hne : c ≠ '\n' := fun he => h (he ▸ hc)
      simpa using hne
  rw [afterFirstLine, if_pos (by simp), hdrop, List.drop_succ_cons, List.drop_zero]

/-- The code in a text between fences is what stands between them. -/
theorem stripFencesList_fences {info : List Char} (body : List Char) (h : '\n' ∉ info) :
    stripFencesList (fence ++ (info ++ '\n' :: (body ++ fence))) = trimList body := by
  have htick : isBlank '\x60' = false := by decide
  have hsplit : fence = ['\x60', '\x60'] ++ ['\x60'] := rfl
  have htrim : trimList (fence ++ (info ++ '\n' :: (body ++ fence))) =
      fence ++ (info ++ '\n' :: (body ++ fence)) := by
    refine trimList_eq_self (fun c hc => ?_) (fun c hc => ?_)
    · rw [hsplit, List.append_assoc, List.cons_append, List.head?_cons, Option.some.injEq] at hc
      exact hc ▸ htick
    · have hlast : (fence ++ (info ++ '\n' :: (body ++ fence))).getLast? = some '\x60' := by
        simp [hsplit, List.getLast?_append, List.getLast?_cons]
      rw [hlast, Option.some.injEq] at hc
      exact hc ▸ htick
  have hend : trimEndList (body ++ fence) = body ++ fence := by
    rw [hsplit, ← List.append_assoc, trimEndList_concat _ htick]
  rw [stripFencesList, htrim, afterStart?_eq_some_iff.mpr rfl]
  dsimp only
  rw [afterFirstLine_line _ h, hend, beforeEnd?_eq_some_iff.mpr rfl, Option.getD_some]

/-- **The code in a text does not change when fences are put around it.** -/
theorem stripFencesList_enclose (f : Fencing) {cs : List Char} (h : Unfenced cs) :
    stripFencesList (f.enclose cs) = stripFencesList cs := by
  have hblanks : trimList (f.enclose cs) =
      trimList (fence ++ (f.info ++ '\n' :: (cs ++ '\n' :: (f.between ++ fence)))) := by
    rw [Fencing.enclose, trimList_append_blanks _ f.blank_after,
      trimList_blanks_append _ f.blank_before]
  have hinner : ∀ c ∈ '\n' :: f.between, isBlank c = true :=
    List.forall_mem_cons.mpr ⟨by decide, f.blank_between⟩
  calc stripFencesList (f.enclose cs)
      = stripFencesList (fence ++ (f.info ++ '\n' :: (cs ++ '\n' :: (f.between ++ fence)))) := by
        rw [stripFencesList, hblanks, stripFencesList]
    _ = stripFencesList (fence ++ (f.info ++ '\n' :: ((cs ++ '\n' :: f.between) ++ fence))) := by
        rw [List.append_assoc, List.cons_append]
    _ = trimList (cs ++ '\n' :: f.between) := stripFencesList_fences _ f.not_newline_info
    _ = trimList cs := trimList_append_blanks _ hinner
    _ = stripFencesList cs := (stripFencesList_of_unfenced h).symm

theorem stripFences_around (f : Fencing) {s : String} (h : Unfenced s.toList) :
    stripFences (f.around s) = stripFences s := by
  rw [stripFences, Fencing.around, String.toList_ofList, stripFencesList_enclose f h, stripFences]

end Testsmith
