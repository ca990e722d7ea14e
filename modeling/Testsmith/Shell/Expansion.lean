/-
# What words stand for

A word becomes fields: parameters, numbers and what scripts write take the places of their pieces,
what is not quoted is split, and patterns become the names of files. On the way parameters may be set,
scripts run, and the script may fail.

Key definitions: `Shell.Atom`, `Shell.Expander`, `Shell.expandPieces`, `Shell.fieldsOf`,
`Shell.pathsOf`, `Shell.wordFields`, `Shell.wordText`, `Shell.wordPattern`.
-/
import Testsmith.Shell.Arithmetic
import Testsmith.Shell.Pattern
import Testsmith.Shell.State

namespace Testsmith.Shell

/-! ### Parameters -/

/-- The number of the shell among the programs that run. -/
def ownNumber : String := "1"

/-- The characters at which fields are split. -/
def State.separators (s : State) : List Char := ((s.bindings.lookup "IFS").getD " \t\n").toList

/-- The value of a parameter, if it is set. -/
def State.parameter? (s : State) (name : String) : Option String :=
  match name with
  | "?" => some (toString s.status)
  | "#" => some (toString (s.arguments.length - 1))
  | "@" => if s.arguments.length ≤ 1 then none else some (" ".intercalate (s.arguments.drop 1))
  | "*" =>
    if s.arguments.length ≤ 1 then none
    else
      let between := match s.separators with
        | [] => ""
        | c :: _ => String.singleton c
      some (between.intercalate (s.arguments.drop 1))
  | "-" => some (String.ofList s.flags)
  | "$" => some ownNumber
  | "PWD" => some s.directory.text
  | _ =>
    match name.toNat? with
    | some n => s.arguments[n]?
    | none => s.bindings.lookup name

/-! ### Expanding -/

/-- A character of a word, or what stands between characters. -/
inductive Atom
  /-- A character. If it is not quoted, it may have a meaning in a pattern, and a separator may split
  the word. -/
  | char (c : Char) (quoted splits : Bool)
  /-- Quotes: there is a field even if it is empty. -/
  | mark
  /-- A new field begins. -/
  | next
  deriving DecidableEq, Repr

/-- What expanding has come to. -/
structure Progress where
  state : State
  written : List (Stream × ByteArray) := []
  /-- The status of the last script whose output was taken. -/
  substituted : Option Nat := none

/-- Why the script ends, and how far it came. -/
structure ExpansionFault where
  progress : Progress
  message : String
  stop : Stop := .exit

/-- A step of expanding. It may end the script. -/
abbrev Expander (α : Type) := Progress → Except ExpansionFault (α × Progress)

namespace Expander

def pure {α : Type} (a : α) : Expander α := fun p => .ok (a, p)

def bind {α β : Type} (x : Expander α) (f : α → Expander β) : Expander β := fun p =>
  match x p with
  | .ok (a, p) => f a p
  | .error e => .error e

instance : Monad Expander where
  pure := pure
  bind := bind

def state : Expander State := fun p => .ok (p.state, p)

def setState (s : State) : Expander Unit := fun p => .ok ((), { p with state := s })

/-- The script ends with a complaint. -/
def fail {α : Type} (message : String) : Expander α := fun p => .error ⟨p, message, .exit⟩

end Expander

/-- The characters of a text. -/
def atomsOf (quoted splits : Bool) (text : String) : List Atom :=
  text.toList.map fun c => .char c quoted splits

/-- The value of a parameter as atoms. All arguments in quotes are a field each. -/
def parameterAtoms (s : State) (name : String) (value : String) (quoted : Bool) : List Atom :=
  if name = "@" || (name = "*" && !quoted) then
    let fields := (s.arguments.drop 1).map fun a =>
      (if quoted then [Atom.mark] else []) ++ atomsOf quoted (!quoted) a
    [Atom.next].intercalate fields
  else (if quoted then [.mark] else []) ++ atomsOf quoted (!quoted) value

/-- The text of atoms; where fields begin, there are blanks. -/
def textOfAtoms (as : List Atom) : String :=
  String.ofList (as.filterMap fun a => match a with
    | .char c _ _ => some c
    | .mark => none
    | .next => some ' ')

def glyphsOf (as : List Atom) : List Glyph :=
  as.filterMap fun a => match a with
    | .char c quoted _ => some ⟨c, quoted⟩
    | .mark => none
    | .next => some ⟨' ', true⟩

/-- The text without the shortest or longest part at one end that is of a pattern. -/
def trimText (atEnd longest : Bool) (pattern : List Glyph) (text : String) : String :=
  let cs := text.toList
  let counts := List.range (cs.length + 1)
  let counts := if longest then counts.reverse else counts
  let cut? := counts.find? fun n =>
    fits pattern (if atEnd then cs.drop (cs.length - n) else cs.take n)
  match cut? with
  | none => text
  | some n => String.ofList (if atEnd then cs.take (cs.length - n) else cs.drop n)

/-- The bytes without line ends at their end, as text. -/
def withoutLastLines (bytes : ByteArray) : String :=
  let kept := (bytes.toList.filter (· ≠ 0)).reverse.dropWhile (· = 10)
  Text.decodeLossy ⟨kept.reverse.toArray⟩

/-- Takes the output of a script, which runs in a shell of its own. -/
def takeOutput (run : String → State → Effect) (script : String) : Expander String := fun p =>
  let e := run script p.state
  let p : Progress :=
    { state := p.state.after e.state
      written := p.written ++ e.written.filter (·.1 = .errors)
      substituted := some e.state.status }
  match e.stop with
  | some .timeout => .error ⟨p, "", .timeout⟩
  | _ => .ok (withoutLastLines (e.stream .output), p)

/-- The value of an expression. -/
def takeNumber (text : String) : Expander String := do
  let s ← Expander.state
  match (Expression.read text.toList).bind fun e => e.value s.bindings with
  | .ok (n, bindings) => do
    Expander.setState { s with bindings }
    return toString n
  | .error (.illegal number) => Expander.fail ("Illegal number: " ++ number)
  | .error fault =>
    Expander.fail ("arithmetic expression: " ++ fault.reason ++ ": \"" ++ text ++ "\"")

/-- The value of a parameter. One that is not set is empty, unless that is a fault. -/
def takeParameter (name : String) : Expander String := do
  let s ← Expander.state
  match s.parameter? name with
  | some value => return value
  | none =>
    if s.flags.contains 'u' && name != "@" && name != "*" then
      Expander.fail (name ++ ": parameter not set")
    else return ""

mutual

/-- What pieces stand for. `inner` says that they stand in braces, where what is not quoted splits. -/
def expandPieces (run : String → State → Effect) (inner : Bool) : List Piece → Expander (List Atom)
  | [] => return []
  | p :: ps => do
    let front ← expandPiece run inner p
    return front ++ (← expandPieces run inner ps)

/-- What a piece stands for. -/
def expandPiece (run : String → State → Effect) (inner : Bool) : Piece → Expander (List Atom)
  | .literal text quoted =>
    return (if quoted then [.mark] else []) ++ atomsOf quoted (inner && !quoted) text
  | .parameter name quoted => do
    let value ← takeParameter name
    return parameterAtoms (← Expander.state) name value quoted
  | .length name quoted => do
    let value ← takeParameter name
    return atomsOf quoted (!quoted) (toString value.utf8ByteSize)
  | .fallback name kind ifEmpty word quoted => do
    let s ← Expander.state
    let found := (s.parameter? name).filter fun value => !(ifEmpty && value.isEmpty)
    let given (value : String) : List Atom := parameterAtoms s name value quoted
    match kind, found with
    | .instead, some _ => do
      return (if quoted then [.mark] else []) ++ (← expandPieces run (!quoted) word)
    | .instead, none => return if quoted then [.mark] else []
    | _, some value => return given value
    | .text, none => do
      return (if quoted then [.mark] else []) ++ (← expandPieces run (!quoted) word)
    | .assigned, none => do
      let value := textOfAtoms (← expandPieces run (!quoted) word)
      let s ← Expander.state
      Expander.setState (s.bind name value)
      return (if quoted then [.mark] else []) ++ atomsOf quoted (!quoted) value
    | .complaint, none => do
      let text := textOfAtoms (← expandPieces run (!quoted) word)
      let default := "parameter not set" ++ if ifEmpty then " or null" else ""
      Expander.fail (name ++ ": " ++ if word.isEmpty then default else text)
  | .trimmed name atEnd longest pattern quoted => do
    let value ← takeParameter name
    let pattern ← expandPieces run false pattern
    return (if quoted then [.mark] else []) ++
      atomsOf quoted (!quoted) (trimText atEnd longest (glyphsOf pattern) value)
  | .output script quoted => do
    let text ← takeOutput run script
    return (if quoted then [.mark] else []) ++ atomsOf quoted (!quoted) text
  | .number expression quoted => do
    let text := textOfAtoms (← expandPieces run false expression)
    return atomsOf quoted (!quoted) (← takeNumber text)
  | .senseless => Expander.fail "Bad substitution"

end

/-! ### Fields -/

/-- Fields as they are found: the last one may have begun, and a separator that is no blank belongs to
the blanks before it. -/
structure Splitting where
  fields : List (List Glyph) := []
  current : Option (List Glyph) := none
  blank : Bool := false

namespace Splitting

def extend (p : Splitting) (gs : List Glyph) : Splitting :=
  { p with current := some (p.current.getD [] ++ gs), blank := false }

def close (p : Splitting) : Splitting :=
  { p with fields := p.fields ++ p.current.toList, current := none }

def add (separators : List Char) (p : Splitting) : Atom → Splitting
  | .mark => p.extend []
  | .next => { p.close with blank := false }
  | .char c quoted splits =>
    if splits && separators.contains c then
      if c = ' ' || c = '\t' || c = '\n' then
        { p.close with blank := p.blank || p.current.isSome }
      else if p.current.isNone && !p.blank then { p with fields := p.fields ++ [[]] }
      else { p.close with blank := false }
    else p.extend [⟨c, quoted⟩]

end Splitting

/-- The fields of a word. -/
def fieldsOf (separators : List Char) (as : List Atom) : List (List Glyph) :=
  (as.foldl (Splitting.add separators) {}).close.fields

/-- The parts of a field between slashes. -/
def pathPatterns (gs : List Glyph) : List (List Glyph) :=
  gs.foldr (fun g parts =>
    if g.char = '/' then [] :: parts
    else
      match parts with
      | [] => [[g]]
      | p :: parts => (g :: p) :: parts) [[]]

/-- The paths that begin with a text and go on with names of patterns. -/
def pathsFrom (s : State) : (front : String) → List (List Glyph) → List String
  | _, [] => []
  | front, part :: rest =>
    let place := s.path (if front.isEmpty then "." else front)
    let names :=
      if isPattern part then
        ((s.tree.names place).toOption.getD []).filter fun name =>
          fits part name.toList && (!name.startsWith "." || part.head?.any (·.char = '.'))
      else [plain part]
    match rest with
    | [] =>
      (names.map (front ++ ·)).filter fun path => s.tree.has (s.path path)
    | rest =>
      names.flatMap fun name =>
        let path := front ++ name ++ "/"
        if s.tree.hasDirectory (s.path path) then pathsFrom s path rest else []

/-- The files whose paths are of a pattern, in order; the text itself if there are none. -/
def pathsOf (s : State) (field : List Glyph) : List String :=
  if s.flags.contains 'f' || !isPattern field then [plain field]
  else
    match pathsFrom s "" (pathPatterns field) with
    | [] => [plain field]
    | paths => paths.mergeSort (· ≤ ·)

/-- The fields that a word stands for. -/
def wordFields (run : String → State → Effect) (w : Word) : Expander (List String) := do
  let as ← expandPieces run false w
  let s ← Expander.state
  return (fieldsOf s.separators as).flatMap (pathsOf s)

def wordsFields (run : String → State → Effect) : List Word → Expander (List String)
  | [] => return []
  | w :: ws => do
    let front ← wordFields run w
    return front ++ (← wordsFields run ws)

/-- The text that a word stands for, which is not split. -/
def wordText (run : String → State → Effect) (w : Word) : Expander String := do
  return textOfAtoms (← expandPieces run false w)

/-- The pattern that a word stands for. -/
def wordPattern (run : String → State → Effect) (w : Word) : Expander (List Glyph) := do
  return glyphsOf (← expandPieces run false w)

end Testsmith.Shell
