/-
# Texts in TOML

A text has four written forms: in double quotes with escapes or in single quotes as it is, and each
of these in one line or, with three quotes, in several. `write` chooses the plainest form that fits;
`readText` reads all four.

Key definitions: `Toml.TextForm`, `Toml.write`, `Toml.readText`.
-/
import Testsmith.Text.Hex

namespace Testsmith.Toml

open Text (hexValue? upperHexDigit)

/-- A reader of the start of a text: what was read, and the rest. -/
abbrev Reader (α : Type) := List Char → Option (α × List Char)

/-! ### Writing -/

/-- A character that only an escape can stand for. Tabs and line feeds are not counted here. -/
def isControl (c : Char) : Bool := (c < ' ' && c != '\t' && c != '\n') || c == '\x7f'

/-- The longest run of `q` in a text that begins after `run` of them. -/
def longestRun (q : Char) : (run : Nat) → List Char → Nat
  | run, [] => run
  | run, c :: cs => if c = q then longestRun q (run + 1) cs else max run (longestRun q 0 cs)

/-- A written form: its quotes, and whether there are three of them on each side. -/
structure TextForm where
  /-- Double quotes, between which a backslash begins an escape. -/
  escapes : Bool
  multiline : Bool
  deriving DecidableEq, Repr

namespace TextForm

def quote (f : TextForm) : Char := if f.escapes then '"' else '\''

/-- What stands before a text and after it. -/
def fence (f : TextForm) : List Char := List.replicate (if f.multiline then 3 else 1) f.quote

/-- The form can hold the text without an escape, tabs in double quotes aside. -/
def fits (f : TextForm) (cs : List Char) : Bool :=
  !cs.any isControl && (f.multiline || !cs.contains '\n') && !(f.escapes && cs.contains '\\') &&
    (if f.multiline then longestRun f.quote 0 cs ≤ 2 else !cs.contains f.quote)

/-- The form a text is written in: the first that fits, or else one with escapes. -/
def of (cs : List Char) : TextForm :=
  (([⟨true, false⟩, ⟨false, false⟩, ⟨true, true⟩, ⟨false, true⟩] : List TextForm).find?
    (·.fits cs)).getD ⟨true, cs.contains '\n'⟩

end TextForm

/-- A number in four hexadecimal digits. -/
def fourDigits (n : Nat) : List Char :=
  [upperHexDigit (n / 4096), upperHexDigit (n / 256), upperHexDigit (n / 16), upperHexDigit n]

/-- A character between double quotes. Only a control character, a backslash or a tab needs an escape
in every form. -/
def escapeChar (c : Char) : List Char :=
  if c = '\x08' then ['\\', 'b']
  else if c = '\t' then ['\\', 't']
  else if c = '\x0c' then ['\\', 'f']
  else if c = '\r' then ['\\', 'r']
  else if c = '\\' then ['\\', '\\']
  else if isControl c then '\\' :: 'u' :: fourDigits c.toNat
  else [c]

/-- A text between double quotes. In one line, quotes and line feeds are escaped; in several, a third
quote in a row is. `run` quotes stand before the text. -/
def escaped (multiline : Bool) : (run : Nat) → List Char → List Char
  | _, [] => []
  | run, '"' :: cs =>
    if multiline && run < 2 then '"' :: escaped multiline (run + 1) cs
    else '\\' :: '"' :: escaped multiline 0 cs
  | _, '\n' :: cs => (if multiline then ['\n'] else ['\\', 'n']) ++ escaped multiline 0 cs
  | _, c :: cs => escapeChar c ++ escaped multiline 0 cs

/-- A text in its written form. One with a line feed begins in a line of its own. -/
def write (cs : List Char) : List Char :=
  let f := TextForm.of cs
  f.fence ++ (if cs.contains '\n' && f.multiline then ['\n'] else []) ++
    (if f.escapes then escaped f.multiline 0 cs else cs) ++ f.fence

/-! ### Reading -/

/-- A character that may stand for itself. -/
def isPlain (c : Char) : Bool := c == '\t' || (' ' ≤ c && c != '\x7f')

def isBlank (c : Char) : Bool := c == ' ' || c == '\t'

/-- What follows the line ending a text begins with. -/
def afterNewline? : List Char → Option (List Char)
  | '\n' :: cs => some cs
  | '\r' :: '\n' :: cs => some cs
  | _ => none

/-- Just so many hexadecimal digits. `high` is the value of the digits before. -/
def readHex : (count : Nat) → (high : Nat) → Reader Nat
  | 0, high, cs => some (high, cs)
  | _ + 1, _, [] => none
  | count + 1, high, c :: cs => (hexValue? c).bind fun d => readHex count (16 * high + d) cs

/-- A character given by its number in hexadecimal digits. -/
def readScalar (count : Nat) (cs : List Char) : Option (Char × List Char) :=
  (readHex count 0 cs).bind fun (n, cs) => if n.isValidChar then some (Char.ofNat n, cs) else none

/-- What follows a backslash. -/
def readEscape : Reader Char
  | 'b' :: cs => some ('\x08', cs)
  | 't' :: cs => some ('\t', cs)
  | 'n' :: cs => some ('\n', cs)
  | 'f' :: cs => some ('\x0c', cs)
  | 'r' :: cs => some ('\r', cs)
  | '"' :: cs => some ('"', cs)
  | '\\' :: cs => some ('\\', cs)
  | 'u' :: cs => readScalar 4 cs
  | 'U' :: cs => readScalar 8 cs
  | _ => none

/-- Blanks and line endings. -/
def skipSpace : List Char → List Char
  | '\r' :: '\n' :: cs => skipSpace cs
  | c :: cs => if isBlank c || c = '\n' then skipSpace cs else c :: cs
  | [] => []

/-- What follows an escaped line ending: the blanks before and all space after it are left out. -/
def afterEscapedNewline? (cs : List Char) : Option (List Char) :=
  (afterNewline? (cs.dropWhile isBlank)).map skipSpace

/-- The rest of a text in one line. -/
def readLine (f : TextForm) : (bound : Nat) → Reader (List Char)
  | 0, _ => none
  | _, [] => none
  | bound + 1, c :: cs =>
    if c = f.quote then some ([], cs)
    else if c = '\\' && f.escapes then do
      let (c, cs) ← readEscape cs
      let (text, cs) ← readLine f bound cs
      return (c :: text, cs)
    else if isPlain c then do
      let (text, cs) ← readLine f bound cs
      return (c :: text, cs)
    else none

/-- What three quotes end: one or two more after them belong to the text. -/
def closing (q : Char) (cs : List Char) : List Char × List Char :=
  let extra := min 2 (cs.takeWhile (· == q)).length
  (List.replicate extra q, cs.drop extra)

/-- The rest of a text in several lines. -/
def readLines (f : TextForm) : (bound : Nat) → Reader (List Char)
  | 0, _ => none
  | _, [] => none
  | bound + 1, c :: cs =>
    if c = f.quote && cs.take 2 == [f.quote, f.quote] then some (closing f.quote (cs.drop 2))
    else if c = '\\' && f.escapes then
      match afterEscapedNewline? cs with
      | some cs => readLines f bound cs
      | none => do
        let (c, cs) ← readEscape cs
        let (text, cs) ← readLines f bound cs
        return (c :: text, cs)
    else
      match afterNewline? (c :: cs) with
      | some cs => do
        let (text, cs) ← readLines f bound cs
        return ('\n' :: text, cs)
      | none =>
        if isPlain c then do
          let (text, cs) ← readLines f bound cs
          return (c :: text, cs)
        else none

/-- A text in one line of the given quotes. -/
def readSingle (escapes : Bool) (cs : List Char) : Option (List Char × List Char) :=
  let f : TextForm := ⟨escapes, false⟩
  match cs with
  | c :: cs => if c = f.quote then readLine f (cs.length + 1) cs else none
  | [] => none

/-- A text of the given quotes. -/
def readQuoted (escapes : Bool) (cs : List Char) : Option (List Char × List Char) :=
  let f : TextForm := ⟨escapes, true⟩
  if cs.take 3 == f.fence then
    let cs := cs.drop 3
    readLines f (cs.length + 1) ((afterNewline? cs).getD cs)
  else readSingle escapes cs

/-- A text in any of its forms. -/
def readText (cs : List Char) : Option (List Char × List Char) :=
  match cs with
  | '"' :: _ => readQuoted true cs
  | '\'' :: _ => readQuoted false cs
  | _ => none

end Testsmith.Toml
