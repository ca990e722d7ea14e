/-
# Lines and words

A line ends at a line feed, and a carriage return right before it belongs to the ending. Text after
the last line feed is a line too, unless it is empty, and keeps a carriage return at its end. Words
are the stretches between blanks.

Key definitions: `linesList`, `wordsList`, `normalizeBlanks`, `afterStart?`, `beforeEnd?`,
`occursIn`.
-/
import Testsmith.Text.Blank

namespace Testsmith.Text

/-- Lines of a text, the first of which began with the characters in `current`, held backwards. -/
def linesFrom : (current : List Char) → List Char → List (List Char)
  | [], [] => []
  | current, [] => [current.reverse]
  | current, '\n' :: cs =>
    let line := match current with
      | '\r' :: more => more.reverse
      | _ => current.reverse
    line :: linesFrom [] cs
  | current, c :: cs => linesFrom (c :: current) cs

/-- The lines of a text, without their endings. -/
def linesList (cs : List Char) : List (List Char) := linesFrom [] cs

/-- The words of a text, the first of which began with the characters in `current`, held
backwards. -/
def wordsFrom : (current : List Char) → List Char → List (List Char)
  | [], [] => []
  | current, [] => [current.reverse]
  | current, c :: cs =>
    if isBlank c then
      if current.isEmpty then wordsFrom [] cs else current.reverse :: wordsFrom [] cs
    else wordsFrom (c :: current) cs

/-- The words of a text. -/
def wordsList (cs : List Char) : List (List Char) := wordsFrom [] cs

/-- The words of a text with one space between them. -/
def normalizeBlanks (cs : List Char) : List Char := [' '].intercalate (wordsList cs)

/-- What follows `start` in a text that begins with it. -/
def afterStart? : (start cs : List Char) → Option (List Char)
  | [], cs => some cs
  | _ :: _, [] => none
  | s :: ss, c :: cs => if s = c then afterStart? ss cs else none

/-- What comes before `ending` in a text that ends with it. -/
def beforeEnd? (ending cs : List Char) : Option (List Char) :=
  (afterStart? ending.reverse cs.reverse).map List.reverse

/-- The text occurs in the other one. -/
def occursIn (part : List Char) : List Char → Bool
  | [] => part.isEmpty
  | c :: cs => part.isPrefixOf (c :: cs) || occursIn part cs

/-! ### Laws -/

theorem afterStart?_eq_some_iff {start cs rest : List Char} :
    afterStart? start cs = some rest ↔ cs = start ++ rest := by
  induction start generalizing cs with
  | nil => simp [afterStart?]
  | cons s ss ih =>
    cases cs with
    | nil => simp [afterStart?]
    | cons c cs =>
      by_cases h : s = c <;> simp [afterStart?, h, ih]
      exact fun hc => absurd hc.symm h

theorem beforeEnd?_eq_some_iff {ending cs rest : List Char} :
    beforeEnd? ending cs = some rest ↔ cs = rest ++ ending := by
  simp only [beforeEnd?, Option.map_eq_some_iff, afterStart?_eq_some_iff]
  constructor
  · rintro ⟨r, hr, rfl⟩
    have := congrArg List.reverse hr
    simpa using this
  · rintro rfl
    exact ⟨rest.reverse, by simp, by simp⟩

end Testsmith.Text
