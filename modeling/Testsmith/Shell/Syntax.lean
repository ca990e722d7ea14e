/-
# Scripts

The language that build commands are written in: simple commands with words, redirections and
assignments; lists and pipes; groups, conditions, choices, loops and functions.

Key definitions: `Shell.Piece`, `Shell.Word`, `Shell.Redirection`, `Shell.Script`.
-/

namespace Testsmith.Shell

/-- How a word counts beside a parameter. -/
inductive Fallback
  /-- It takes the place of a parameter that is not set. -/
  | text
  /-- It does so, and the parameter is set to it. -/
  | assigned
  /-- It takes the place of a parameter that is set. -/
  | instead
  /-- It is the last thing the script says if the parameter is not set. -/
  | complaint
  deriving DecidableEq, Repr

/-- A part of a word. What is quoted is never split. -/
inductive Piece where
  | literal (text : String) (quoted : Bool)
  | parameter (name : String) (quoted : Bool)
  /-- The length of the value of a parameter. -/
  | length (name : String) (quoted : Bool)
  /-- A parameter and what counts if it is not set, or empty. -/
  | fallback (name : String) (kind : Fallback) (ifEmpty : Bool) (word : List Piece) (quoted : Bool)
  /-- A parameter without the shortest or longest part at one end that is of a pattern. -/
  | trimmed (name : String) (atEnd longest : Bool) (pattern : List Piece) (quoted : Bool)
  /-- What a script writes. -/
  | output (script : String) (quoted : Bool)
  /-- The value of an expression. -/
  | number (expression : List Piece) (quoted : Bool)
  /-- Braces that make no sense. -/
  | senseless
  deriving Repr

abbrev Word := List Piece

/-- The streams a command writes to. -/
inductive Stream
  | output | errors
  deriving DecidableEq, Repr

/-- What becomes of a descriptor, the number by which a command knows what it writes to. -/
inductive Redirection
  | toFile (descriptor : Nat) (extend : Bool) (target : Word)
  | fromFile (source : Word)
  /-- The command reads this text. -/
  | fromText (text : Word)
  /-- It becomes what another one is. -/
  | copy (descriptor source : Nat)
  | close (descriptor : Nat)
  deriving Repr

inductive Script where
  | skip
  /-- A command and the line it stands in. -/
  | simple (line : Nat) (words : List Word) (redirections : List Redirection)
  | sequence (first second : Script)
  /-- The second runs if the first succeeds. -/
  | andThen (first second : Script)
  /-- The second runs if the first fails. -/
  | orElse (first second : Script)
  | pipe (first second : Script)
  /-- The body runs beside what follows. -/
  | background (body : Script)
  | negate (body : Script)
  /-- A group; what a subshell does to parameters and the directory ends with it. -/
  | group (subshell : Bool) (body : Script) (redirections : List Redirection)
  | branch (condition yes no : Script)
  /-- The body runs as long as the condition succeeds, or fails. -/
  | loop (whileFails : Bool) (condition body : Script)
  /-- The body runs for each value; no values mean the arguments. -/
  | each (name : String) (values : Option (List Word)) (body : Script)
  /-- The body runs if the subject is of one of the patterns. -/
  | choice (subject : Word) (patterns : List Word) (body otherwise : Script)
  | define (name : String) (body : Script)
  deriving Repr

/-- The text of a word that has no quotes and no parameters. -/
def plainText? (w : Word) : Option String :=
  (w.mapM fun p => match p with
    | Piece.literal s false => some s
    | _ => none).map String.join

/-- The text of a word as far as it is literal. -/
def literalText (w : Word) : String :=
  String.join (w.map fun p => match p with
    | Piece.literal s _ => s
    | _ => "")

def isNameChar (c : Char) : Bool := c.isAlphanum || c == '_'

def isName (s : String) : Bool :=
  s.toList.all isNameChar && s.toList.head?.any fun c => !c.isDigit

end Testsmith.Shell
