/-
# Blank space

The characters of the Unicode property `White_Space`, and texts without the blanks at their ends.
The work is done on lists of characters; a `String` is read and rebuilt around it.

Key definitions: `isBlank`, `trimList`, `trim`, `trimEnd`.
Key theorems: `trimStartList_eq_self_iff`, `trimEndList_append_blank`.
-/
import Testsmith.Text.Range

namespace Testsmith.Text

/-- The property `White_Space`. -/
def blankRanges : List (Nat × Nat) :=
  [(0x9, 0xd), (0x20, 0x20), (0x85, 0x85), (0xa0, 0xa0), (0x1680, 0x1680), (0x2000, 0x200a),
   (0x2028, 0x2029), (0x202f, 0x202f), (0x205f, 0x205f), (0x3000, 0x3000)]

/-- A blank: space, tab, line break or another space of Unicode. -/
def isBlank (c : Char) : Bool := inRanges blankRanges c

def trimStartList (cs : List Char) : List Char := cs.dropWhile isBlank

def trimEndList (cs : List Char) : List Char := (cs.reverse.dropWhile isBlank).reverse

def trimList (cs : List Char) : List Char := trimEndList (trimStartList cs)

/-- The text without the blanks after its last other character. -/
def trimEnd (s : String) : String := String.ofList (trimEndList s.toList)

/-- The text without the blanks at both ends. -/
def trim (s : String) : String := String.ofList (trimList s.toList)

/-! ### Laws of trimming -/

/-- Trimming at the start changes nothing iff the text does not start with a blank. -/
theorem trimStartList_eq_self_iff {cs : List Char} :
    trimStartList cs = cs ↔ ∀ c, cs.head? = some c → isBlank c = false := by
  cases cs with
  | nil => simp [trimStartList]
  | cons c cs =>
    cases h : isBlank c with
    | false => simp [trimStartList, h]
    | true =>
      have hlen := (List.dropWhile_sublist isBlank (l := cs)).length_le
      simp only [trimStartList, List.dropWhile_cons, h, if_true, List.head?_cons, Option.some.injEq,
        forall_eq', Bool.true_eq_false, iff_false]
      intro hc
      have := congrArg List.length hc
      simp at this
      omega

/-- Blanks put after a text are trimmed away again. -/
theorem trimEndList_append_blank {cs bs : List Char} (h : ∀ b ∈ bs, isBlank b = true) :
    trimEndList (cs ++ bs) = trimEndList cs := by
  unfold trimEndList
  rw [List.reverse_append, List.dropWhile_append_of_pos (by simpa using h)]

end Testsmith.Text
