/-
# The tokens of Java

Tokens have numbers, by which the automaton knows them. Number 0 is the end of the source and 1 a
word that is no keyword where it stands. Java 22 is read, with string templates.

Key definitions: `symbols`, `keywords`, `lexicon`.
-/
import Testsmith.Parsing.Lexicon
import Testsmith.Text.Identifier

namespace Testsmith.Java

open Parsing (Pattern TokenRule Mode Lexicon)

namespace Spelling

open Parsing.Pattern

/-- Groups of digits with underscores between. -/
def groups (digit : Pattern) : Pattern := seq (many1 digit) (many (seq (literal "_") (many1 digit)))

def digit : Pattern := oneOf "0123456789"

def hexDigit : Pattern := oneOf "0123456789abcdefABCDEF"

def octalDigit : Pattern := oneOf "01234567"

/-- The digits of a decimal integer. Only zero begins with zero. -/
def decimal : Pattern :=
  either (literal "0") (seq (oneOf "123456789") (opt (seq (opt (literal "_")) (groups digit))))

def longSuffix : Pattern := opt (oneOf "lL")

def floatSuffix : Pattern := opt (oneOf "fFdD")

/-- An exponent after one of the letters. -/
def exponent (letters : String) : Pattern := all [oneOf letters, opt (oneOf "+-"), groups digit]

def decimalInteger : Pattern := seq decimal longSuffix

def hexInteger : Pattern := all [literal "0", oneOf "xX", groups hexDigit, longSuffix]

def octalInteger : Pattern := all [literal "0", opt (oneOf "oO"), groups octalDigit, longSuffix]

def binaryInteger : Pattern := all [literal "0", oneOf "bB", groups (oneOf "01"), longSuffix]

def decimalFloat : Pattern :=
  any [
    all [groups digit, literal ".", opt (groups digit), opt (exponent "eE"), floatSuffix],
    all [literal ".", groups digit, opt (exponent "eE"), floatSuffix],
    all [decimal, exponent "eE", floatSuffix],
    all [decimal, opt (exponent "eE"), oneOf "fFdD"]]

def hexFloat : Pattern :=
  all [
    literal "0", oneOf "xX",
    either (seq (groups hexDigit) (opt (literal ".")))
      (all [opt (groups hexDigit), literal ".", groups hexDigit]),
    opt (seq (exponent "pP") floatSuffix)]

def character : Pattern :=
  all [literal "'", many1 (either (noneOf "\\'\n") (seq (literal "\\") anyChar)), literal "'"]

/-- Text of a string between escapes. -/
def stringText : Pattern := many1 (noneOf "\"\\")

/-- A quote inside a text block, and the text after it. -/
def quotedText : Pattern := seq (literal "\"") (many (either (noneOf "\"\\") (literal "\\\"")))

def escape : Pattern :=
  seq (literal "\\") (any [
    noneOf "xu01234567",
    all [octalDigit, opt octalDigit, opt octalDigit],
    all [literal "x", hexDigit, hexDigit],
    all [literal "u", hexDigit, hexDigit, hexDigit, hexDigit],
    all [literal "u", literal "\x7b", many1 hexDigit, literal "\x7d"]])

/-- An escape that only a text block may hold. -/
def looseEscape : Pattern := seq (literal "\\") (noneOf "bfnrts'\"\\")

def lineComment : Pattern := seq (literal "//") (many (noneOf "\n"))

def blockComment : Pattern :=
  let stars := seq (many (noneOf "*")) (many1 (literal "*"))
  all [literal "/*", stars, many (seq (noneOf "/*") stars), literal "/"]

/-- The character begins a word. -/
def isWordStart (c : Char) : Bool := Text.isWordStart c || c = '_' || c = '$'

/-- The character may stand inside a word. -/
def isWordPart (c : Char) : Bool :=
  Text.isWordContinue c || c = '_' || c = '$' || c = Char.ofNat 0xa2

def word : Pattern := seq (one isWordStart) (many (one isWordPart))

end Spelling

/-! ### Numbers of the tokens -/

def identifierToken : Nat := 1

/-- Numbers and characters. -/
def literalTokens : List Nat := [2, 3, 4, 5, 6, 7, 10]

def fragmentTokens : List Nat := [13, 14, 15]

def escapeTokens : List Nat := [18, 19]

def commentTokens : List Nat := [136, 137]

/-- The tokens that are always spelled alike and are no keywords. -/
def symbols : List (Nat × String) :=
  [(11, "\""), (12, "\"\"\""), (16, "\\\x7b"), (17, "\x7d"), (21, "("), (22, ")"), (23, "&"),
   (24, "="), (25, "+="), (26, "-="), (27, "*="), (28, "/="), (29, "&="), (30, "|="), (31, "^="),
   (32, "%="), (33, "<<="), (34, ">>="), (35, ">>>="), (36, ">"), (37, "<"), (38, ">="), (39, "<="),
   (40, "=="), (41, "!="), (42, "&&"), (43, "||"), (44, "+"), (45, "-"), (46, "*"), (47, "/"),
   (48, "|"), (49, "^"), (50, "%"), (51, "<<"), (52, ">>"), (53, ">>>"), (56, "->"), (57, ","),
   (58, "?"), (59, ":"), (60, "!"), (61, "~"), (62, "++"), (63, "--"), (65, "["), (66, "]"),
   (67, "."), (69, "::"), (72, "\x7b"), (77, ";"), (93, "@"), (117, "non-sealed"),
   (121, "@interface"), (132, "...")]

/-- The words with tokens of their own. -/
def keywords : List (String × Nat) :=
  [("true", 8), ("false", 9), ("null", 20), ("instanceof", 54), ("final", 55), ("new", 64),
   ("class", 68), ("extends", 70), ("switch", 71), ("case", 73), ("default", 74), ("_", 75),
   ("when", 76), ("assert", 78), ("do", 79), ("while", 80), ("break", 81), ("continue", 82),
   ("return", 83), ("yield", 84), ("synchronized", 85), ("throw", 86), ("try", 87), ("catch", 88),
   ("finally", 89), ("if", 90), ("else", 91), ("for", 92), ("open", 94), ("module", 95),
   ("requires", 96), ("transitive", 97), ("static", 98), ("exports", 99), ("to", 100),
   ("opens", 101), ("uses", 102), ("provides", 103), ("with", 104), ("package", 105),
   ("import", 106), ("enum", 107), ("public", 108), ("protected", 109), ("private", 110),
   ("abstract", 111), ("strictfp", 112), ("native", 113), ("transient", 114), ("volatile", 115),
   ("sealed", 116), ("implements", 118), ("permits", 119), ("record", 120), ("interface", 122),
   ("byte", 123), ("short", 124), ("int", 125), ("long", 126), ("char", 127), ("float", 128),
   ("double", 129), ("boolean", 130), ("void", 131), ("throws", 133), ("this", 134),
   ("super", 135)]

/-! ### How the tokens are spelled -/

/-- The spellings of the tokens that are not always spelled alike. -/
def patternRules : List TokenRule :=
  [{ token := identifierToken, pattern := Spelling.word },
   { token := 2, pattern := Spelling.decimalInteger },
   { token := 3, pattern := Spelling.hexInteger },
   { token := 4, pattern := Spelling.octalInteger },
   { token := 5, pattern := Spelling.binaryInteger },
   { token := 6, pattern := Spelling.decimalFloat },
   { token := 7, pattern := Spelling.hexFloat },
   { token := 10, pattern := Spelling.character },
   { token := 13, pattern := Spelling.stringText, immediate := true, precedence := 1, rank := 1 },
   { token := 14, pattern := Spelling.stringText },
   { token := 15, pattern := Spelling.quotedText },
   { token := 18, pattern := Spelling.looseEscape, immediate := true, rank := 1 },
   { token := 19, pattern := Spelling.escape, immediate := true, rank := 1 },
   { token := 136, pattern := Spelling.lineComment },
   { token := 137, pattern := Spelling.blockComment }]

/-- The spellings of all tokens but keywords. -/
def tokenRules : List TokenRule :=
  patternRules ++ symbols.map fun (token, text) =>
    { token, pattern := .literal text, rank := 2 }

/-- The mode of the given tokens. -/
def modeOf (atEnd : Bool) (tokens : List Nat) : Mode :=
  ⟨tokenRules.filter fun r => tokens.contains r.token, atEnd⟩

/-- All numbers from the first to the last. -/
def span (first last : Nat) : List Nat := (List.range (last + 1)).drop first

/-- Where any token may come but those inside strings. -/
def looseMode : Mode :=
  modeOf true ([1, 10, 11, 12, 16, 17, 18, 19, 65, 66, 67, 69, 72, 77, 93, 117, 121, 132] ++
    span 2 7 ++ span 21 53 ++ span 56 63 ++ commentTokens)

/-- The modes, in the order by which the automaton knows them. -/
def modes : Array Mode :=
  #[looseMode,
    modeOf false ([1, 10, 11, 12, 17, 65, 66, 67, 69, 72, 77, 93, 132] ++ span 2 7 ++ span 21 53 ++
      span 56 63 ++ commentTokens),
    modeOf true ([1, 10, 11, 12, 17, 21, 22, 23, 65, 66, 67, 69, 72, 77, 93, 117, 121] ++
      span 2 7 ++ span 36 53 ++ span 56 63 ++ commentTokens),
    modeOf false ([1, 10, 11, 12, 17, 56, 57, 58, 65, 67, 69, 77, 93, 117] ++ span 2 7 ++
      span 21 53 ++ span 60 63 ++ commentTokens),
    modeOf false ([1, 17, 62, 63, 65, 66, 67, 69, 77, 93, 117] ++ span 21 24 ++ span 36 53 ++
      span 56 59 ++ commentTokens),
    modeOf false ([1, 17, 21, 22, 23, 62, 63, 65, 66, 67, 69, 72, 77, 93] ++ span 36 53 ++
      span 56 59 ++ commentTokens),
    modeOf false ([1, 36, 37, 48, 57, 58, 59, 65, 67, 69, 72, 77, 93, 132] ++ span 21 24 ++
      commentTokens),
    modeOf false ([1, 37, 121] ++ commentTokens),
    modeOf false ([12, 14, 15, 16, 18, 19] ++ commentTokens),
    modeOf false ([11, 13, 16, 19] ++ commentTokens)]

def lexicon : Lexicon where
  modes := modes
  looseMode := looseMode
  word := identifierToken
  keywords := keywords.map fun (w, token) => (w.toList, token)
  mark := Char.ofNat 0xfeff

end Testsmith.Java
