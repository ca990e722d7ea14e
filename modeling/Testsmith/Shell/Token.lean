/-
# Tokens of scripts

Words, operators and redirections, each with its line. A redirection from lines that follow is put
together with their text.

Key definitions: `Shell.Token`, `Shell.Announced`, `Shell.scan`, `Shell.placeTexts`, `Shell.tokenize`.
-/
import Testsmith.Shell.Word

namespace Testsmith.Shell

inductive Token
  | word (w : Word) (line : Nat)
  | operator (s : String) (line : Nat)
  /-- A redirection with the number before it. -/
  | redirect (number : Option Nat) (s : String) (line : Nat)
  /-- A redirection from the text of the lines that follow. -/
  | lines (number : Option Nat) (text : Word) (line : Nat)
  | fault (f : SyntaxFault) (line : Nat)
  | ending (line : Nat)
  deriving Repr

/-- The operators, longer ones first. -/
def operators : List String := ["&&", "||", ";;", ";", "&", "|", "(", ")", "\n"]

/-- The redirections, longer ones first. -/
def redirections : List String := ["<<-", "<<", ">>", ">&", "<&", "<>", ">|", ">", "<"]

/-- The first of some texts that a text begins with, and what follows. -/
def readOneOf (options : List String) (cs : List Char) : Option (String × List Char) :=
  (options.find? fun s => s.toList.isPrefixOf cs).map fun s => (s, cs.drop s.length)

/-- A text of lines that is still to come: its end, whether tabs at the start of lines do not count,
and whether it is taken as it is. -/
structure Announced where
  mark : String
  withoutTabs : Bool
  asIs : Bool

/-- The lines up to the mark, their number, and what follows. -/
def readBody (a : Announced) : (bound : Nat) → List Char → List Char × Nat × List Char
  | 0, cs => ([], 0, cs)
  | _, [] => ([], 0, [])
  | bound + 1, cs =>
    let line := cs.takeWhile (· != '\n')
    let rest := cs.drop line.length
    let line := if a.withoutTabs then line.dropWhile (· = '\t') else line
    if String.ofList line = a.mark then ([], 1, rest.drop 1)
    else
      let (text, count, after) := readBody a bound (rest.drop 1)
      (line ++ rest.take 1 ++ text, count + 1, after)

/-- The texts that were announced, the number of their lines, and what follows. -/
def readBodies : List Announced → List Char → List (Except SyntaxFault Word) × Nat × List Char
  | [], cs => ([], 0, cs)
  | a :: more, cs =>
    let (text, count, rest) := readBody a (cs.length + 1) cs
    let word : Except SyntaxFault Word :=
      if a.asIs then .ok [.literal (String.ofList text) true]
      else (readPieces (text.length + 1) .lines text).map (·.1)
    let (words, more, rest) := readBodies more rest
    (word :: words, count + more, rest)

/-- The tokens of a script, and the texts announced in it. `pending` are the texts that begin with the
next line, the last first. -/
def scan : (bound : Nat) → (line : Nat) → (pending : List Announced) → List Char →
    List Token × List (Except SyntaxFault Word)
  | 0, line, _, _ => ([.ending line], [])
  | _, line, pending, [] => ([.ending line], (readBodies pending.reverse []).1)
  | bound + 1, line, pending, c :: cs =>
    let rest := c :: cs
    let digits := rest.takeWhile Char.isDigit
    if c = ' ' || c = '\t' then scan bound line pending cs
    else if ['\\', '\n'].isPrefixOf rest then scan bound (line + 1) pending (cs.drop 1)
    else if c = '#' then scan bound line pending (cs.dropWhile (· != '\n'))
    else if c = '\n' then
      let (words, count, cs) := readBodies pending.reverse cs
      let (ts, more) := scan bound (line + 1 + count) [] cs
      (.operator "\n" (line + 1) :: ts, words ++ more)
    else
      match readOneOf operators rest, readOneOf redirections (rest.drop digits.length) with
      | some (s, cs), _ =>
        let (ts, words) := scan bound line pending cs
        (.operator s line :: ts, words)
      | none, some (s, cs) =>
        let announced : List Announced :=
          if s = "<<" || s = "<<-" then
            match readPieces (cs.length + 1) .word (cs.dropWhile fun c => c = ' ' || c = '\t') with
            | .ok (w, _) =>
              [⟨literalText w, s = "<<-", w.any fun p => p matches .literal _ true⟩]
            | .error _ => []
          else []
        let (ts, words) := scan bound line (announced ++ pending) cs
        (.redirect (String.ofList digits).toNat? s line :: ts, words)
      | none, none =>
        match readPieces (cs.length + 2) .word rest with
        | .error f =>
          ([.fault f (line + if f = .unclosedQuote then rest.countP (· = '\n') else 0)], [])
        | .ok (w, after) =>
          let lines := (rest.take (rest.length - after.length)).countP (· == '\n')
          let (ts, words) := scan bound (line + lines) pending after
          (.word w line :: ts, words)

/-- Puts the announced texts in the places of their marks. -/
def placeTexts : List (Except SyntaxFault Word) → List Token → List Token
  | text :: texts, .redirect n s line :: .word w start :: ts =>
    if s = "<<" || s = "<<-" then
      match text with
      | .ok text => .lines n text line :: placeTexts texts ts
      | .error f => [.fault f line]
    else .redirect n s line :: .word w start :: placeTexts (text :: texts) ts
  | texts, t :: ts => t :: placeTexts texts ts
  | _, [] => []

/-- The tokens of a script. -/
def tokenize (text : String) : List Token :=
  let (ts, texts) := scan (text.length + 1) 1 [] text.toList
  placeTexts texts ts

end Testsmith.Shell
