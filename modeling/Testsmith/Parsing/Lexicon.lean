/-
# Tokens

A lexicon says how text is cut into tokens. Which tokens may come next depends on the grammar, so a
lexicon has modes, and a token is read in a mode. Of the tokens of the mode the longest counts,
unless the text goes on in a way that only tokens of lower precedence allow. Blanks stand before
tokens, except those that are immediate. A word that is a keyword where it stands is one.

Where no token of the mode can be read, one of any kind is tried, and if there is none either, the
text up to the next token is a stray stretch.

Key definitions: `TokenRule`, `Lexicon`, `Scan`, `Mode.scan`, `Lexeme`, `Lexicon.read`.
-/
import Testsmith.Parsing.Pattern

namespace Testsmith.Parsing

/-- The token at the end of every text. -/
def endToken : Nat := 0

/-- How a token is spelled. -/
structure TokenRule where
  token : Nat
  pattern : Pattern
  /-- Blanks may not stand before the token. -/
  immediate : Bool := false
  /-- A token read to its end is not given up for one of lower precedence. -/
  precedence : Nat := 0
  /-- Of two tokens with the same text and precedence the one of higher rank counts. -/
  rank : Nat := 0

instance : Inhabited TokenRule := ⟨{ token := 0, pattern := .never }⟩

/-- The tokens that may come next. -/
structure Mode where
  rules : List TokenRule
  /-- The text may end. -/
  atEnd : Bool

instance : Inhabited Mode := ⟨⟨[], false⟩⟩

structure Lexicon where
  modes : Array Mode
  /-- The mode of all tokens that can be told apart without a grammar. -/
  looseMode : Mode
  /-- The token of a word. -/
  word : Nat
  /-- Words with tokens of their own. -/
  keywords : List (List Char × Nat)
  /-- The mark that may stand at the very start of a text. -/
  mark : Char

/-! ### One token -/

/-- A token that has been begun, and what is left of its pattern. -/
structure Residual where
  rule : TokenRule
  rest : Pattern

/-- Where the reading of a token stands. -/
structure Scan where
  /-- A token may still begin. -/
  fresh : Bool
  /-- Only blanks have been read. -/
  blank : Bool
  /-- The tokens that have been begun. -/
  live : List Residual
  /-- How many characters have been read. -/
  read : Nat
  /-- How many of them are the blanks before the token. -/
  lead : Nat
  /-- The longest token read so far, and how many characters had been read at its end. -/
  found : Option (Nat × Nat)

/-- Blanks are those of ASCII. -/
def isSeparator (c : Char) : Bool := c = ' ' || ('\t' ≤ c && c ≤ '\r')

namespace TokenRule

/-- The rule counts before the other when both are read to the end at once. -/
def beats (a b : TokenRule) : Bool :=
  if a.precedence ≠ b.precedence then b.precedence < a.precedence
  else if a.rank ≠ b.rank then b.rank < a.rank
  else a.token < b.token

/-- The rule after its first character. -/
def begin? (c : Char) (r : TokenRule) : Option Residual :=
  match r.pattern.after c with
  | .never => none
  | rest => some ⟨r, rest⟩

end TokenRule

/-- The token after one more character. -/
def Residual.continue? (c : Char) (r : Residual) : Option Residual :=
  match r.rest.after c with
  | .never => none
  | rest => some ⟨r.rule, rest⟩

namespace Scan

/-- The rule of the token that ends here. -/
def complete? (s : Scan) : Option TokenRule :=
  s.live.foldl
    (fun best r =>
      if r.rest.acceptsEmpty then
        match best with
        | some b => if r.rule.beats b then some r.rule else best
        | none => some r.rule
      else best)
    none

/-- The scan with the token that ends here, if one does, as the longest. -/
def note (s : Scan) : Scan :=
  match s.complete? with
  | some r => { s with found := some (r.token, s.read) }
  | none => s

/-- Going on with these tokens would give up a complete token that must be kept. -/
def mustKeep (s : Scan) (next : List Residual) : Bool :=
  match s.complete? with
  | none => false
  | some r =>
    let precedence := next.foldl (fun m t => max m t.rule.precedence) 0
    precedence < r.precedence ||
      (precedence == r.precedence &&
        (next.isEmpty || (s.fresh && !next.any fun t => t.rule.token == r.token)))

/-- The scan after one more character, unless no token goes on with it. -/
def step? (mode : Mode) (s : Scan) (c : Char) : Option Scan :=
  let continued := s.live.filterMap (Residual.continue? c)
  let begun :=
    if s.fresh then
      mode.rules.filterMap fun r => if r.immediate then none else r.begin? c
    else []
  let next := continued ++ begun
  let fresh := s.fresh && isSeparator c
  if (next.isEmpty && !fresh) || s.mustKeep next then none
  else
    let lead := if next.isEmpty then s.read + 1 else s.lead
    some ⟨fresh, s.blank && next.isEmpty, next, s.read + 1, lead, s.found⟩

end Scan

namespace Mode

/-- The scan before the first character. -/
def start (mode : Mode) : Scan :=
  ⟨true, true, (mode.rules.filter (·.immediate)).map fun r => ⟨r, r.pattern⟩, 0, 0, none⟩

/-- Reads on as far as a token of the mode can reach. -/
def scanFrom (mode : Mode) : Scan → List Char → Scan
  | s, [] =>
    if mode.atEnd && s.blank then { s with found := some (endToken, s.read) } else s.note
  | s, c :: cs =>
    match s.note.step? mode c with
    | some next => scanFrom mode next cs
    | none => s.note

/-- Reads one token. -/
def scan (mode : Mode) (cs : List Char) : Scan := mode.scanFrom mode.start cs

end Mode

/-! ### Tokens of a text -/

/-- A token in a text. -/
structure Lexeme where
  /-- Which token it is, none for a stray stretch. -/
  token : Option Nat
  /-- What stands before it. -/
  lead : List Char
  text : List Char
  deriving DecidableEq, Repr

namespace Lexicon

/-- The length of the stretch that holds no token. -/
def strayLength (l : Lexicon) : (bound : Nat) → List Char → Nat
  | 0, _ => 0
  | bound + 1, cs =>
    let s := l.looseMode.scan cs
    if s.found.isSome then 0
    else
      let n := max s.read 1
      n + l.strayLength bound (cs.drop n)

/-- The stray stretch after a scan that found nothing. -/
def stray (l : Lexicon) (s : Scan) (cs : List Char) : Lexeme :=
  let text := cs.drop s.lead
  let first := max (s.read - s.lead) 1
  let length := first + l.strayLength (cs.length + 1) (text.drop first)
  ⟨none, cs.take s.lead, text.take length⟩

/-- The token that a scan found. `admits` says which keywords may stand here. -/
def lexeme (l : Lexicon) (admits : Nat → Bool) (s : Scan) (token stop : Nat) (cs : List Char) :
    Lexeme :=
  let text := (cs.take stop).drop s.lead
  let token :=
    if token = l.word then
      match l.keywords.lookup text with
      | some k => if admits k then k else token
      | none => token
    else token
  ⟨some token, cs.take s.lead, text⟩

/-- The first token of a text, in a mode or else in the loose one. -/
def readIn (l : Lexicon) (mode : Option Mode) (admits : Nat → Bool) (cs : List Char) : Lexeme :=
  let loose : Unit → Lexeme := fun _ =>
    let s := l.looseMode.scan cs
    match s.found with
    | some (token, stop) => l.lexeme admits s token stop cs
    | none => l.stray s cs
  match mode with
  | none => loose ()
  | some mode =>
    let s := mode.scan cs
    match s.found with
    | some (token, stop) => l.lexeme admits s token stop cs
    | none => loose ()

/-- The first token of a text, which may be the start of a whole text. No mode means the loose
one. -/
def read (l : Lexicon) (mode : Option Mode) (admits : Nat → Bool) (atStart : Bool)
    (cs : List Char) : Lexeme :=
  match cs with
  | c :: rest =>
    if atStart && c = l.mark then
      let x := l.readIn mode admits rest
      { x with lead := c :: x.lead }
    else l.readIn mode admits cs
  | [] => l.readIn mode admits []

end Lexicon

end Testsmith.Parsing
