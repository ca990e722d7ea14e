/-
# Token counts

How many tokens went in and out of the generation of tests. A count is a word of 64 bits; a sum that
does not fit ends the program, so that adding has no result then.

Key definitions: `TokenUsage`, `TokenUsage.add?`, `TokenUsage.total?`.
Key theorems: `TokenUsage.add?_eq_some_iff`.
-/

namespace Testsmith

/-- The least number that is no count. -/
def countLimit : Nat := UInt64.size

structure TokenUsage where
  input : Nat
  output : Nat
  deriving DecidableEq, Repr

namespace TokenUsage

def zero : TokenUsage := ⟨0, 0⟩

instance : Inhabited TokenUsage := ⟨zero⟩

/-- The sums of the counts, if both are counts. -/
def add? (a b : TokenUsage) : Option TokenUsage :=
  if a.input + b.input < countLimit ∧ a.output + b.output < countLimit then
    some ⟨a.input + b.input, a.output + b.output⟩
  else none

/-- The sum of both counts, if it is a count. -/
def total? (a : TokenUsage) : Option Nat :=
  if a.input + a.output < countLimit then some (a.input + a.output) else none

theorem add?_eq_some_iff {a b c : TokenUsage} :
    a.add? b = some c ↔
      c.input = a.input + b.input ∧ c.output = a.output + b.output ∧
        c.input < countLimit ∧ c.output < countLimit := by
  obtain ⟨ci, co⟩ := c
  grind [add?]

end TokenUsage

end Testsmith
