/-
# Patterns of names

The patterns by which a script chooses files and texts: a star stands for any text, a question mark
for any character, brackets for one of some. A quoted character stands for itself.

Key definitions: `Shell.Glyph`, `Shell.Part`, `Shell.partsOf`, `Shell.fits`.
-/

namespace Testsmith.Shell

/-- A character, and whether it stands for itself. -/
structure Glyph where
  char : Char
  quoted : Bool
  deriving DecidableEq, Repr

/-- A part of a pattern. -/
inductive Part
  | literal (c : Char)
  | anyChar
  | anyText
  /-- One character of some ranges, or one of none. -/
  | oneOf (negated : Bool) (ranges : List (Char × Char))
  deriving DecidableEq, Repr

/-- Ranges of the classes that have names. -/
def namedClass (name : String) : List (Char × Char) :=
  match name with
  | "alpha" => [('a', 'z'), ('A', 'Z')]
  | "digit" => [('0', '9')]
  | "alnum" => [('a', 'z'), ('A', 'Z'), ('0', '9')]
  | "upper" => [('A', 'Z')]
  | "lower" => [('a', 'z')]
  | "space" => [(' ', ' '), ('\t', '\r')]
  | "blank" => [(' ', ' '), ('\t', '\t')]
  | "punct" => [('!', '/'), (':', '@'), ('[', '\x60'), ('\x7b', '~')]
  | "xdigit" => [('0', '9'), ('a', 'f'), ('A', 'F')]
  | _ => []

/-- The ranges in brackets, up to the closing one. -/
def readRanges :
    (bound : Nat) → (first : Bool) → List Glyph → Option (List (Char × Char) × List Glyph)
  | 0, _, _ | _, _, [] => none
  | bound + 1, first, g :: gs =>
    if g.char = ']' && !g.quoted && !first then some ([], gs)
    else
      match g, gs with
      | ⟨'[', false⟩, ⟨':', _⟩ :: rest =>
        let name := String.ofList ((rest.map (·.char)).takeWhile (· != ':'))
        (readRanges bound false (rest.drop (name.length + 2))).map fun (rs, gs) =>
          (namedClass name ++ rs, gs)
      | g, ⟨'-', false⟩ :: h :: rest =>
        if h.char = ']' && !h.quoted then
          (readRanges bound false gs).map fun (rs, gs) => ((g.char, g.char) :: rs, gs)
        else (readRanges bound false rest).map fun (rs, gs) => ((g.char, h.char) :: rs, gs)
      | g, gs => (readRanges bound false gs).map fun (rs, gs) => ((g.char, g.char) :: rs, gs)

/-- The parts of a pattern. -/
def partsFrom : (bound : Nat) → List Glyph → List Part
  | 0, _ | _, [] => []
  | bound + 1, g :: gs =>
    if g.quoted then .literal g.char :: partsFrom bound gs
    else
      match g.char with
      | '*' => .anyText :: partsFrom bound gs
      | '?' => .anyChar :: partsFrom bound gs
      | '[' =>
        let (negated, body) :=
          match gs with
          | ⟨'!', false⟩ :: body | ⟨'^', false⟩ :: body => (true, body)
          | body => (false, body)
        match readRanges (body.length + 1) true body with
        | some (ranges, rest) => .oneOf negated ranges :: partsFrom bound rest
        | none => .literal '[' :: partsFrom bound gs
      | c => .literal c :: partsFrom bound gs

def partsOf (gs : List Glyph) : List Part := partsFrom gs.length gs

/-- The character is in one of the ranges. -/
def inOneOf (ranges : List (Char × Char)) (c : Char) : Bool :=
  ranges.any fun r => r.1 ≤ c && c ≤ r.2

/-- The ends of a text, the whole text first. -/
def endsOf : List Char → List (List Char)
  | [] => [[]]
  | c :: cs => (c :: cs) :: endsOf cs

/-- The text is of the pattern. -/
def fitsParts : List Part → List Char → Bool
  | [], cs => cs.isEmpty
  | .anyText :: ps, cs => (endsOf cs).any (fitsParts ps)
  | _ :: _, [] => false
  | .literal d :: ps, c :: cs => c = d && fitsParts ps cs
  | .anyChar :: ps, _ :: cs => fitsParts ps cs
  | .oneOf negated ranges :: ps, c :: cs => inOneOf ranges c != negated && fitsParts ps cs

/-- The text is of the pattern. -/
def fits (pattern : List Glyph) (cs : List Char) : Bool := fitsParts (partsOf pattern) cs

/-- The pattern stands for other texts than itself. -/
def isPattern (gs : List Glyph) : Bool :=
  (partsOf gs).any fun p => !(p matches .literal _)

/-- The characters as they are. -/
def plain (gs : List Glyph) : String := String.ofList (gs.map (·.char))

end Testsmith.Shell
