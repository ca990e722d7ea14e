/-
# Patterns of text

A pattern is a regular expression over characters. It is read one character at a time:
`p.after c` is the pattern of what may follow `c` in a text of `p`, and a text is of the pattern if
what is left after its last character accepts the empty text.

Key definitions: `Pattern`, `Pattern.after`, `Pattern.acceptsEmpty`.
-/

namespace Testsmith.Parsing

inductive Pattern
  /-- No text at all. -/
  | never
  /-- This text alone. -/
  | text (cs : List Char)
  /-- One character with the property. -/
  | one (admits : Char → Bool)
  | seq (first next : Pattern)
  | either (left right : Pattern)
  /-- The pattern any number of times. -/
  | many (step : Pattern)

namespace Pattern

instance : Inhabited Pattern := ⟨never⟩

/-- The empty text is of the pattern. -/
def acceptsEmpty : Pattern → Bool
  | never => false
  | text cs => cs.isEmpty
  | one _ => false
  | seq a b => a.acceptsEmpty && b.acceptsEmpty
  | either a b => a.acceptsEmpty || b.acceptsEmpty
  | many _ => true

/-- One pattern before the other. -/
def «then» : Pattern → Pattern → Pattern
  | never, _ => never
  | text [], b => b
  | a, b => seq a b

/-- One pattern or the other. -/
def or : Pattern → Pattern → Pattern
  | never, b => b
  | a, never => a
  | a, b => either a b

/-- What may follow a character. -/
def after (c : Char) : Pattern → Pattern
  | never => never
  | text [] => never
  | text (d :: ds) => if c = d then text ds else never
  | one admits => if admits c then text [] else never
  | seq a b =>
    let inFirst := (a.after c).then b
    if a.acceptsEmpty then inFirst.or (b.after c) else inFirst
  | either a b => (a.after c).or (b.after c)
  | many a => (a.after c).then (many a)

/-! ### Common shapes -/

/-- The pattern or nothing. -/
def opt (p : Pattern) : Pattern := either p (text [])

/-- The pattern at least once. -/
def many1 (p : Pattern) : Pattern := seq p (many p)

/-- The patterns one after another. -/
def all : List Pattern → Pattern
  | [] => text []
  | [p] => p
  | p :: ps => seq p (all ps)

/-- One of the patterns. -/
def any : List Pattern → Pattern
  | [] => never
  | [p] => p
  | p :: ps => either p (any ps)

/-- A word, letter by letter. -/
def literal (s : String) : Pattern := text s.toList

/-- One of the characters. -/
def oneOf (s : String) : Pattern :=
  let cs := s.toList
  one fun c => cs.contains c

/-- Any character but those. -/
def noneOf (s : String) : Pattern :=
  let cs := s.toList
  one fun c => !cs.contains c

def anyChar : Pattern := one fun _ => true

end Pattern

end Testsmith.Parsing
