/-
# Reading TOML

A document is a list of lines: blank ones, headers of tables, and keys with their values. Comments
may end each. Where a document breaks a rule, there is no value.

Key definitions: `Toml.readValue`, `Toml.readKey`, `Toml.Line`, `Toml.readLineOf`, `Toml.parse?`.
-/
import Testsmith.Toml.Scalar

namespace Testsmith.Toml

/-! ### Space and comments -/

def skipBlanks (cs : List Char) : List Char := cs.dropWhile isBlank

/-- What follows a comment, if there is one: it goes on to the end of the line. -/
def afterComment : List Char → List Char
  | '#' :: cs => cs.dropWhile isPlain
  | cs => cs

/-- What follows the end of a line, blanks and a comment before it left out. -/
def afterLine? (cs : List Char) : Option (List Char) :=
  match afterComment (skipBlanks cs) with
  | [] => some []
  | cs => afterNewline? cs

/-- What follows blanks, line endings and comments. A comment has to end with its line. -/
def skipLines : (bound : Nat) → List Char → Option (List Char)
  | 0, cs => some cs
  | bound + 1, cs =>
    match skipBlanks cs with
    | '#' :: cs => (afterNewline? (cs.dropWhile isPlain)).bind (skipLines bound)
    | cs =>
      match afterNewline? cs with
      | some cs => skipLines bound cs
      | none => some cs

/-- What follows blanks, line endings and comments. -/
def afterSpace? (cs : List Char) : Option (List Char) := skipLines (cs.length + 1) cs

/-! ### Keys -/

/-- A character of a key without quotes. -/
def isKeyChar (c : Char) : Bool := c.isAlphanum || c == '_' || c == '-'

/-- A key without points. -/
def readSimpleKey (cs : List Char) : Option (String × List Char) :=
  match cs with
  | '"' :: _ => (readSingle true cs).map fun (k, cs) => (String.ofList k, cs)
  | '\'' :: _ => (readSingle false cs).map fun (k, cs) => (String.ofList k, cs)
  | _ =>
    let k := cs.takeWhile isKeyChar
    if k.isEmpty then none else some (String.ofList k, cs.dropWhile isKeyChar)

/-- The most parts a key may have, and the most brackets that may be open. -/
def depthLimit : Nat := 80

/-- The parts of a key with points between, and blanks around them. -/
def readKeyParts : (bound : Nat) → Reader (List String)
  | 0, _ => none
  | bound + 1, cs => do
    let (part, cs) ← readSimpleKey (skipBlanks cs)
    match skipBlanks cs with
    | '.' :: cs =>
      let (parts, cs) ← readKeyParts bound cs
      return (part :: parts, cs)
    | cs => return ([part], cs)

/-- A key: the parts before the last point, and the last part. -/
def readKey (cs : List Char) : Option ((List String × String) × List Char) := do
  let (parts, cs) ← readKeyParts (depthLimit - 1) cs
  let last ← parts.getLast?
  return ((parts.dropLast, last), cs)

/-! ### Values -/

/-- The members of an array up to its closing bracket. -/
def readElements (value : Reader Value) : (bound : Nat) → Reader (List Value)
  | 0, _ => none
  | bound + 1, cs => do
    let cs ← afterSpace? cs
    match cs with
    | ']' :: cs => return ([], cs)
    | cs =>
      let (v, cs) ← value cs
      let cs ← afterSpace? cs
      match cs with
      | ']' :: cs => return ([v], cs)
      | ',' :: cs =>
        let (vs, cs) ← readElements value bound cs
        return (v :: vs, cs)
      | _ => none

/-- A key and its value. -/
def readPair (value : Reader Value) (cs : List Char) :
    Option (((List String × String) × Value) × List Char) := do
  let (key, cs) ← readKey cs
  match cs with
  | '=' :: cs =>
    let (v, cs) ← value (skipBlanks cs)
    return ((key, v), cs)
  | _ => none

/-- The entries of a table in braces up to its closing brace, after the ones before them. -/
def readInline (value : Reader Value) : (bound : Nat) → Entries → Reader Entries
  | 0, _, _ => none
  | bound + 1, es, cs => do
    let (((path, key), v), cs) ← readPair value cs
    let es ← insertAt path key v es
    match skipBlanks cs with
    | '\x7d' :: cs => return (es, cs)
    | ',' :: cs => readInline value bound es cs
    | _ => none

/-- A value. At most `depth` brackets may be open. -/
def readValue : (depth : Nat) → Reader Value
  | _, '"' :: cs => (readText ('"' :: cs)).map fun (t, cs) => (.text (String.ofList t), cs)
  | _, '\'' :: cs => (readText ('\'' :: cs)).map fun (t, cs) => (.text (String.ofList t), cs)
  | 0, '[' :: _ | 0, '\x7b' :: _ => none
  | depth + 1, '[' :: cs =>
    (readElements (readValue depth) (cs.length + 1) cs).map fun (vs, cs) => (.array vs, cs)
  | depth + 1, '\x7b' :: cs =>
    match skipBlanks cs with
    | '\x7d' :: cs => some (.table .inline [], cs)
    | _ =>
      (readInline (readValue depth) (cs.length + 1) [] cs).map fun (es, cs) =>
        (.table .inline es, cs)
  | _, cs => readScalarValue cs

/-! ### Documents -/

/-- What a line of a document says. -/
inductive Line
  | blank
  | header (path : List String) (key : String)
  | listHeader (path : List String) (key : String)
  | pair (path : List String) (key : String) (value : Value)

/-- A line that is not blank. -/
def readStatement (cs : List Char) : Option (Line × List Char) :=
  match cs with
  | '[' :: '[' :: cs => do
    let ((path, key), cs) ← readKey cs
    match cs with
    | ']' :: ']' :: cs => return (.listHeader path key, cs)
    | _ => none
  | '[' :: cs => do
    let ((path, key), cs) ← readKey cs
    match cs with
    | ']' :: cs => return (.header path key, cs)
    | _ => none
  | cs => do
    let (((path, key), v), cs) ← readPair (readValue (depthLimit - 1)) cs
    return (.pair path key v, cs)

/-- The first line of a document, and the rest. -/
def readLineOf (cs : List Char) : Option (Line × List Char) :=
  match afterLine? cs with
  | some cs => some (.blank, cs)
  | none => do
    let (line, cs) ← readStatement (skipBlanks cs)
    return (line, ← afterLine? cs)

/-- The lines of a document. -/
def readDocument : (bound : Nat) → List Char → Option (List Line)
  | _, [] => some []
  | 0, _ => none
  | bound + 1, cs => do
    let (line, cs) ← readLineOf cs
    return line :: (← readDocument bound cs)

/-- A document under way: the table that its last header opened, and all entries so far. -/
structure State where
  path : List String
  root : Entries

/-- Takes up a line. -/
def State.add (s : State) : Line → Option State
  | .blank => some s
  | .header path key => (openTable path key s.root).map fun root => ⟨path ++ [key], root⟩
  | .listHeader path key => (appendTable path key s.root).map fun root => ⟨path ++ [key], root⟩
  | .pair path key v => (insertUnder s.path path key v s.root).map fun root => { s with root }

/-- A mark at the start of a document that only tells its encoding is left out. -/
def afterMark : List Char → List Char
  | c :: cs => if c.toNat = 0xfeff then cs else c :: cs
  | [] => []

/-- The entries of a document. -/
def parse? (text : String) : Option Entries := do
  let cs := afterMark text.toList
  let lines ← readDocument cs.length cs
  let s ← lines.foldlM State.add ⟨[], []⟩
  return s.root

end Testsmith.Toml
