/-
# Reading words

The pieces of a word: what is quoted, parameters with what is done to them, expressions, and scripts
whose output counts. A word may end too late, in quotes or braces that are never closed.

Key definitions: `Shell.SyntaxFault`, `Shell.Surrounding`, `Shell.readOperation`, `Shell.readPieces`.
-/
import Testsmith.Shell.Syntax

namespace Testsmith.Shell

/-! ### Faults -/

/-- Why a text is no script. -/
inductive SyntaxFault
  | unclosedQuote
  | unclosedBrace
  | unclosedExpression
  | unclosedTick
  | badVariable
  | badFunction
  /-- Something stands where something else, or at least not this, was expected. -/
  | unexpected (found : String) (expected : Option String)
  deriving DecidableEq, Repr

def SyntaxFault.message : SyntaxFault → String
  | .unclosedQuote => "Unterminated quoted string"
  | .unclosedBrace => "Missing '\x7d'"
  | .unclosedExpression => "Missing '))'"
  | .unclosedTick => "EOF in backquote substitution"
  | .badVariable => "Bad for loop variable"
  | .badFunction => "Bad function name"
  | .unexpected found none => found ++ " unexpected"
  | .unexpected found (some expected) => found ++ " unexpected (expecting " ++ expected ++ ")"

/-! ### Words -/

/-- What pieces of a word are read in, and so where they end. -/
inductive Surrounding
  /-- They end before a character that ends a word. -/
  | word
  | quotes
  | braces (quoted : Bool)
  /-- A text of some lines, which ends with the last. -/
  | lines
  | expression
  deriving DecidableEq, Repr

def Surrounding.quoted : Surrounding → Bool
  | .word | .braces false => false
  | _ => true

/-- A backslash before the character takes its meaning away. -/
def Surrounding.escapes (place : Surrounding) (c : Char) : Bool :=
  match place with
  | .word | .braces false => true
  | .quotes => ['$', '\x60', '"', '\\'].contains c
  | .braces true => ['$', '\x60', '"', '\\', '\x7d'].contains c
  | .lines | .expression => ['$', '\x60', '\\'].contains c

/-- The characters that end a word. -/
def endsWord (c : Char) : Bool := [' ', '\t', '\n', ';', '&', '|', '<', '>', '(', ')'].contains c

/-- The text up to a mark with no backslash before it, and what follows. -/
def readToMark (mark : Char) : List Char → Option (List Char × List Char)
  | [] => none
  | '\\' :: c :: cs => (readToMark mark cs).map fun (text, rest) => ('\\' :: c :: text, rest)
  | c :: cs =>
    if c = mark then some ([], cs) else (readToMark mark cs).map fun (text, rest) => (c :: text, rest)

/-- The text up to the parenthesis that closes an open one, and what follows. Parentheses in quotes do
not count. -/
def readToClosing : (bound depth : Nat) → List Char → Option (List Char × List Char)
  | 0, _, _ | _, _, [] => none
  | bound + 1, depth, c :: cs =>
    let go (front : List Char) (depth : Nat) (rest : List Char) : Option (List Char × List Char) :=
      (readToClosing bound depth rest).map fun (text, rest) => (front ++ text, rest)
    match c, cs with
    | ')', cs => if depth = 0 then some ([], cs) else go [')'] (depth - 1) cs
    | '(', cs => go ['('] (depth + 1) cs
    | '\\', d :: cs => go ['\\', d] depth cs
    | '\'', cs =>
      let inner := cs.takeWhile (· != '\'')
      go ('\'' :: inner ++ ['\'']) depth (cs.drop (inner.length + 1))
    | '"', cs =>
      match readToMark '"' cs with
      | some (inner, rest) => go ('"' :: inner ++ ['"']) depth rest
      | none => none
    | c, cs => go [c] depth cs

/-- What is between backticks, where a backslash keeps its meaning unless it is before one of a few
characters. -/
def withoutTickEscapes (quoted : Bool) : List Char → List Char
  | '\\' :: c :: cs =>
    if c = '$' || c = '\x60' || c = '\\' || (quoted && c = '"') then c :: withoutTickEscapes quoted cs
    else '\\' :: c :: withoutTickEscapes quoted cs
  | c :: cs => c :: withoutTickEscapes quoted cs
  | [] => []

/-- The name of a parameter at the front, and what follows. -/
def readName (cs : List Char) : Option (String × List Char) :=
  match cs with
  | c :: rest =>
    if ['?', '#', '$', '@', '*', '!', '-'].contains c || c.isDigit then
      some (String.singleton c, rest)
    else if isNameChar c then
      some (String.ofList (cs.takeWhile isNameChar), cs.dropWhile isNameChar)
    else none
  | [] => none

/-- The name of a parameter in braces: its number may have more digits. -/
def readBracedName (cs : List Char) : Option (String × List Char) :=
  let digits := cs.takeWhile Char.isDigit
  if digits.isEmpty then readName cs else some (String.ofList digits, cs.drop digits.length)

/-- What is done with a parameter in braces, given the word that follows. -/
abbrev Operation := List Piece → Piece

/-- The operation after a name in braces, and what follows. A pattern is not quoted by quotes around
the braces. -/
def readOperation (name : String) (quoted : Bool) (cs : List Char) :
    Option (Operation × Bool × List Char) :=
  let (ifEmpty, rest) : Bool × List Char :=
    match cs with
    | ':' :: cs => (true, cs)
    | cs => (false, cs)
  match rest with
  | '-' :: cs => some (fun w => .fallback name .text ifEmpty w quoted, quoted, cs)
  | '=' :: cs => some (fun w => .fallback name .assigned ifEmpty w quoted, quoted, cs)
  | '+' :: cs => some (fun w => .fallback name .instead ifEmpty w quoted, quoted, cs)
  | '?' :: cs => some (fun w => .fallback name .complaint ifEmpty w quoted, quoted, cs)
  | '%' :: '%' :: cs => some (fun w => .trimmed name true true w quoted, false, cs)
  | '%' :: cs => some (fun w => .trimmed name true false w quoted, false, cs)
  | '#' :: '#' :: cs => some (fun w => .trimmed name false true w quoted, false, cs)
  | '#' :: cs => some (fun w => .trimmed name false false w quoted, false, cs)
  | _ => none

/-- The pieces up to where they end, and what follows. -/
def readPieces : (bound : Nat) → Surrounding → List Char → Except SyntaxFault (Word × List Char)
  | 0, _, cs => .ok ([], cs)
  | _, place, [] =>
    match place with
    | .quotes => .error .unclosedQuote
    | .braces _ => .error .unclosedBrace
    | _ => .ok ([], [])
  | bound + 1, place, c :: cs =>
    let quoted := place.quoted
    let go (front : Word) (rest : List Char) : Except SyntaxFault (Word × List Char) := do
      let (w, rest) ← readPieces bound place rest
      return (front ++ w, rest)
    match c, cs with
    | '\\', '\n' :: cs => go [] cs
    | '\\', d :: cs =>
      if place.escapes d then go [.literal (String.singleton d) true] cs
      else go [.literal (String.ofList ['\\', d]) quoted] cs
    | '\'', cs =>
      if quoted then go [.literal "'" true] cs
      else
        match cs.dropWhile (· != '\'') with
        | [] => .error .unclosedQuote
        | _ :: rest => go [.literal (String.ofList (cs.takeWhile (· != '\''))) true] rest
    | '"', cs =>
      match place with
      | .quotes => .ok ([], cs)
      | .lines | .expression => go [.literal "\"" true] cs
      | _ => do
        let (inner, rest) ← readPieces bound .quotes cs
        go (if inner.isEmpty then [.literal "" true] else inner) rest
    | '\x60', cs =>
      match readToMark '\x60' cs with
      | none => .error .unclosedTick
      | some (text, rest) =>
        go [.output (String.ofList (withoutTickEscapes quoted text)) quoted] rest
    | '$', '(' :: '(' :: cs =>
      match readToClosing (cs.length + 1) 0 cs with
      | some (text, ')' :: rest) => do
        let (w, _) ← readPieces bound .expression text
        go [.number w quoted] rest
      | some (text, rest) =>
        -- a script in parentheses that begins with a group in parentheses
        match readToClosing (rest.length + 1) 0 rest with
        | some (more, rest) =>
          go [.output (String.ofList ('(' :: text ++ ')' :: more)) quoted] rest
        | none => .error .unclosedExpression
      | none => .error .unclosedExpression
    | '$', '(' :: cs =>
      match readToClosing (cs.length + 1) 0 cs with
      | some (text, rest) => go [.output (String.ofList text) quoted] rest
      | none => .error (.unexpected "end of file" (some "\")\""))
    | '$', '\x7b' :: '#' :: cs =>
      match readBracedName cs with
      | some (name, '\x7d' :: rest) => go [.length name quoted] rest
      | _ =>
        match cs with
        | '\x7d' :: rest => go [.parameter "#" quoted] rest
        | _ => senseless go cs
    | '$', '\x7b' :: cs =>
      match readBracedName cs with
      | none => senseless go cs
      | some (name, rest) =>
        match rest, readOperation name quoted rest with
        | '\x7d' :: rest, _ => go [.parameter name quoted] rest
        | _, some (operation, inner, rest) => do
          let (w, rest) ← readPieces bound (.braces inner) rest
          go [operation w] rest
        | _, none => senseless go cs
    | '$', cs =>
      match readName cs with
      | some (name, rest) => go [.parameter name quoted] rest
      | none => go [.literal "$" quoted] cs
    | c, cs =>
      match place with
      | .word =>
        if endsWord c then .ok ([], c :: cs) else go [.literal (String.singleton c) false] cs
      | .braces _ => if c = '\x7d' then .ok ([], cs) else go [.literal (String.singleton c) quoted] cs
      | _ => go [.literal (String.singleton c) true] cs
where
  senseless (go : Word → List Char → Except SyntaxFault (Word × List Char)) (cs : List Char) :
      Except SyntaxFault (Word × List Char) :=
    match readToMark '\x7d' cs with
    | some (_, rest) => go [.senseless] rest
    | none => .error .unclosedBrace

end Testsmith.Shell
