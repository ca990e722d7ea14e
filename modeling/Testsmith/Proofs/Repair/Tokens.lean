/-
# Sums of tokens

Token counts add up component by component. A sum is a result of the program only if both of its
counts are counts (`Fits`); what a call takes is no more than what all calls take together, so that
when the sum over all calls fits, every sum on the way does.

Key definitions: `TokenUsage.Fits`.
Key theorems: `TokenUsage.add?_of_fits`, `TokenUsage.add?_eq_none_iff`, `totalUsage_append`.
-/
import Mathlib.Algebra.Group.Defs
import Testsmith.Proofs.Repair.Transition

namespace Testsmith
namespace TokenUsage

instance : Add TokenUsage := ⟨fun a b => ⟨a.input + b.input, a.output + b.output⟩⟩

instance : Zero TokenUsage := ⟨zero⟩

instance : LE TokenUsage := ⟨fun a b => a.input ≤ b.input ∧ a.output ≤ b.output⟩

instance : AddCommMonoid TokenUsage where
  add_assoc a b c := congrArg₂ mk (Nat.add_assoc _ _ _) (Nat.add_assoc _ _ _)
  zero_add a := congrArg₂ mk (Nat.zero_add _) (Nat.zero_add _)
  add_zero _ := rfl
  add_comm a b := congrArg₂ mk (Nat.add_comm _ _) (Nat.add_comm _ _)
  nsmul := nsmulRec

theorem le_refl (a : TokenUsage) : a ≤ a := ⟨Nat.le_refl _, Nat.le_refl _⟩

theorem le_trans {a b c : TokenUsage} (h : a ≤ b) (h' : b ≤ c) : a ≤ c :=
  ⟨Nat.le_trans h.1 h'.1, Nat.le_trans h.2 h'.2⟩

theorem add_le_add {a b c d : TokenUsage} (h : a ≤ b) (h' : c ≤ d) : a + c ≤ b + d :=
  ⟨Nat.add_le_add h.1 h'.1, Nat.add_le_add h.2 h'.2⟩

theorem zero_le (a : TokenUsage) : 0 ≤ a := ⟨Nat.zero_le _, Nat.zero_le _⟩

theorem le_add_right (a b : TokenUsage) : a ≤ a + b := ⟨Nat.le_add_right _ _, Nat.le_add_right _ _⟩

/-- Both counts are counts. -/
def Fits (a : TokenUsage) : Prop := a.input < countLimit ∧ a.output < countLimit

instance (a : TokenUsage) : Decidable a.Fits := inferInstanceAs (Decidable (_ ∧ _))

theorem Fits.mono {a b : TokenUsage} (h : b.Fits) (hab : a ≤ b) : a.Fits :=
  ⟨Nat.lt_of_le_of_lt hab.1 h.1, Nat.lt_of_le_of_lt hab.2 h.2⟩

theorem add?_of_fits {a b : TokenUsage} (h : (a + b).Fits) : a.add? b = some (a + b) :=
  add?_eq_some_iff.mpr ⟨rfl, rfl, h⟩

theorem add?_eq_none_iff {a b : TokenUsage} : a.add? b = none ↔ ¬(a + b).Fits := by
  constructor
  · intro hnone hfits
    rw [add?_of_fits hfits] at hnone
    cases hnone
  · intro hlong
    exact if_neg hlong

end TokenUsage

namespace Repair

open TokenUsage

theorem totalUsage_cons (call : Call) (calls : List Call) :
    totalUsage (call :: calls) = call.usage + totalUsage calls := rfl

theorem totalUsage_append (calls more : List Call) :
    totalUsage (calls ++ more) = totalUsage calls + totalUsage more := by
  induction calls with
  | nil => exact (zero_add _).symm
  | cons call calls ih => rw [List.cons_append, totalUsage_cons, totalUsage_cons, ih, add_assoc]

end Repair
end Testsmith
