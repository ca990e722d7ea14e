/-
# Reading scripts

The commands that tokens make. They are read line by line, so what stands before a fault can still be
run.

Key definitions: `Shell.SyntaxError`, `Shell.Reader`, `Shell.readCommand`, `Shell.readLine`,
`Shell.Reading`, `Shell.read`.
-/
import Testsmith.Shell.Token

namespace Testsmith.Shell

/-- A text is no script from some line on. -/
structure SyntaxError where
  fault : SyntaxFault
  line : Nat

/-- A reader of tokens. -/
abbrev Reader (α : Type) := List Token → Except SyntaxError (α × List Token)

/-- The words with a meaning of their own at the start of a command. -/
def reservedWords : List String :=
  ["!", "case", "do", "done", "elif", "else", "esac", "fi", "for", "if", "in", "then", "until",
   "while", "\x7b", "\x7d"]

/-- The reserved word at the front. -/
def reserved? : List Token → Option String
  | .word w _ :: _ => (plainText? w).filter reservedWords.contains
  | _ => none

def isReserved (s : String) (ts : List Token) : Bool := reserved? ts == some s

def isOperator (s : String) : List Token → Bool
  | .operator o _ :: _ => o == s
  | _ => false

/-- What follows line endings. -/
def skipLines : List Token → List Token
  | .operator "\n" _ :: ts => skipLines ts
  | ts => ts

/-- The line in which tokens begin. -/
def lineOf : List Token → Nat
  | .word _ line :: _ | .operator _ line :: _ | .redirect _ _ line :: _ | .lines _ _ line :: _
  | .fault _ line :: _ | .ending line :: _ => line
  | [] => 1

/-- What the first token is called. -/
def nameOf (reserved : Bool) (ts : List Token) : String :=
  match ts with
  | .word _ _ :: _ =>
    match (reserved? ts).filter fun _ => reserved with
    | some s => "\"" ++ s ++ "\""
    | none => "word"
  | .operator "\n" _ :: _ => "newline"
  | .operator s _ :: _ => "\"" ++ s ++ "\""
  | .redirect .. :: _ | .lines .. :: _ => "redirection"
  | _ => "end of file"

/-- Something else was expected. `reserved` says that reserved words count as such here. -/
def unexpected {α : Type} (reserved : Bool) (expected : Option String) (ts : List Token) :
    Except SyntaxError α :=
  match ts with
  | .fault f line :: _ => .error ⟨f, line⟩
  | ts =>
    let expected := expected.map fun s => "\"" ++ s ++ "\""
    .error ⟨.unexpected (nameOf reserved ts) expected, lineOf ts⟩

/-- What follows a reserved word. -/
def expectWord (s : String) (ts : List Token) : Except SyntaxError (List Token) :=
  if isReserved s ts then .ok (ts.drop 1) else unexpected true (some s) ts

/-- What follows an operator. -/
def expectOperator (s : String) (ts : List Token) : Except SyntaxError (List Token) :=
  if isOperator s ts then .ok (ts.drop 1) else unexpected true (some s) ts

/-- A redirection by its operator, and the word after it. Numbers of what is read are left alone. -/
def redirection? (number : Option Nat) (s : String) (w : Word) : Option Redirection :=
  match s with
  | ">" | ">|" => some (.toFile (number.getD 1) false w)
  | ">>" => some (.toFile (number.getD 1) true w)
  | ">&" =>
    match plainText? w with
    | some "-" => some (.close (number.getD 1))
    | some text => text.toNat?.map (.copy (number.getD 1))
    | none => none
  | "<&" => none
  | _ => if number.getD 0 = 0 then some (.fromFile w) else none

/-- The redirection at the front, if there is one. -/
def readRedirection : List Token → Option (Except SyntaxError (List Redirection × List Token))
  | .lines n w _ :: ts => some (.ok (if n.getD 0 = 0 then [.fromText w] else [], ts))
  | .redirect n s _ :: .word w _ :: ts => some (.ok ((redirection? n s w).toList, ts))
  | .redirect .. :: ts => some (unexpected false none ts)
  | _ => none

/-- The redirections at the front. -/
def readRedirections : (bound : Nat) → Reader (List Redirection)
  | 0, ts => .ok ([], ts)
  | bound + 1, ts =>
    match readRedirection ts with
    | none => .ok ([], ts)
    | some r => do
      let (rs, ts) ← r
      let (more, ts) ← readRedirections bound ts
      return (rs ++ more, ts)

/-- The words and redirections of a simple command. -/
def readSimple : (bound : Nat) → Reader (List Word × List Redirection)
  | 0, ts => .ok (([], []), ts)
  | bound + 1, ts =>
    match ts, readRedirection ts with
    | .word w _ :: ts, _ => do
      let ((ws, rs), ts) ← readSimple bound ts
      return ((w :: ws, rs), ts)
    | _, some r => do
      let (front, ts) ← r
      let ((ws, rs), ts) ← readSimple bound ts
      return ((ws, front ++ rs), ts)
    | ts, none => .ok (([], []), ts)

/-- The words at the front. -/
def readWords : List Token → List Word × List Token
  | .word w _ :: ts =>
    let (ws, ts) := readWords ts
    (w :: ws, ts)
  | ts => ([], ts)

/-- Tokens that can only stand after a list. -/
def endsList (ts : List Token) : Bool :=
  isOperator ";;" ts || isOperator ")" ts ||
    (reserved? ts).any ["do", "done", "elif", "else", "esac", "fi", "then", "\x7d"].contains

def isEnding : List Token → Bool
  | .ending _ :: _ | [] => true
  | _ => false

/-- The commands of a list inside a command. It may be empty if it is `started`. -/
def readList (part : Reader Script) : (bound : Nat) → (started : Bool) → Reader Script
  | 0, _, ts => .ok (.skip, ts)
  | bound + 1, started, ts =>
    let ts := skipLines ts
    if isEnding ts || (started && endsList ts) then .ok (.skip, ts)
    else do
      let (first, ts) ← part ts
      match ts with
      | .operator s _ :: rest =>
        if s = ";" || s = "&" || s = "\n" then
          let first := if s = "&" then .background first else first
          let (more, ts) ← readList part bound true rest
          return (.sequence first more, ts)
        else return (first, ts)
      | ts => return (first, ts)

/-- Script parts of one kind, with one of the operators between. -/
def readJoined (part : Reader Script) (join? : String → Option (Script → Script → Script)) :
    (bound : Nat) → Script → Reader Script
  | bound + 1, first, .operator s line :: ts =>
    match join? s with
    | none => .ok (first, .operator s line :: ts)
    | some join => do
      let (second, ts) ← part (skipLines ts)
      readJoined part join? bound (join first second) ts
  | _, first, ts => .ok (first, ts)

/-- The rest of an `if`. -/
def readBranch (list : Reader Script) : (bound : Nat) → Reader Script
  | 0, ts => unexpected true none ts
  | bound + 1, ts => do
    let (condition, ts) ← list ts
    let (yes, ts) ← list (← expectWord "then" ts)
    if isReserved "elif" ts then
      let (no, ts) ← readBranch list bound (ts.drop 1)
      return (.branch condition yes no, ts)
    else if isReserved "else" ts then
      let (no, ts) ← list (ts.drop 1)
      return (.branch condition yes no, ← expectWord "fi" ts)
    else return (.branch condition yes .skip, ← expectWord "fi" ts)

/-- The patterns of a choice, up to the parenthesis after them. -/
def readPatterns : (bound : Nat) → Reader (List Word)
  | 0, ts => unexpected true none ts
  | bound + 1, .word w _ :: ts =>
    if isOperator "|" ts then do
      let (ws, ts) ← readPatterns bound (ts.drop 1)
      return (w :: ws, ts)
    else do return ([w], ← expectOperator ")" ts)
  | _, ts => unexpected true (some ")") ts

/-- The cases of a choice. -/
def readCases (list : Reader Script) (subject : Word) : (bound : Nat) → Reader Script
  | 0, ts => unexpected true none ts
  | bound + 1, ts => do
    let ts := skipLines ts
    if isReserved "esac" ts then return (.skip, ts.drop 1)
    else
      let (patterns, ts) ← readPatterns bound (if isOperator "(" ts then ts.drop 1 else ts)
      let (body, ts) ← list ts
      let ts := skipLines ts
      if isReserved "esac" ts then return (.choice subject patterns body .skip, ts.drop 1)
      else
        let ts ← expectOperator ";;" ts
        let (otherwise, ts) ← readCases list subject bound ts
        return (.choice subject patterns body otherwise, ts)

/-- The names that no function can have. -/
def reservedNames : List String :=
  [".", ":", "break", "continue", "eval", "exec", "exit", "export", "readonly", "return", "set",
   "shift", "times", "trap", "unset"]

/-- The word is an assignment. -/
def isAssignment (w : Word) : Bool :=
  match w with
  | .literal .. :: _ =>
    let front := (w.takeWhile fun p => p matches .literal _ false).map fun p => match p with
      | .literal s _ => s
      | _ => ""
    let text := String.join front
    text.contains '=' && isName (String.ofList (text.toList.takeWhile (· != '=')))
  | _ => false

/-- The values of a loop, and what follows the word or end of line after them. -/
def readValues (ts : List Token) : Except SyntaxError (Option (List Word) × List Token) :=
  let next := skipLines ts
  if isReserved "in" next then
    let (ws, ts) := readWords (next.drop 1)
    if isOperator ";" ts || isOperator "\n" ts then .ok (some ws, ts.drop 1)
    else unexpected false none ts
  else .ok (none, if isOperator ";" next then next.drop 1 else next)

/-- Commands in a pipe. -/
def readPipeline (command : Reader Script) : Reader Script := fun ts => do
  let negated := isReserved "!" ts
  let (first, ts) ← command (if negated then ts.drop 1 else ts)
  let join? (s : String) : Option (Script → Script → Script) := if s = "|" then some .pipe else none
  let (s, ts) ← readJoined command join? (ts.length + 1) first ts
  return (if negated then .negate s else s, ts)

/-- Pipes joined by `&&` and `||`. -/
def readAndOr (command : Reader Script) : Reader Script := fun ts => do
  let (first, ts) ← readPipeline command ts
  let join? (s : String) : Option (Script → Script → Script) :=
    if s = "&&" then some .andThen else if s = "||" then some .orElse else none
  readJoined (readPipeline command) join? (ts.length + 1) first ts

/-- A body and the redirections after it. -/
def readRedirected (subshell : Bool) (body : Script) : Reader Script := fun ts => do
  let (rs, ts) ← readRedirections (ts.length + 1) ts
  return (.group subshell body rs, ts)

/-- The rest of a loop that goes on as long as its condition succeeds, or fails. -/
def readLoop (list : Reader Script) (whileFails : Bool) : Reader Script := fun ts => do
  let (condition, ts) ← list ts
  let (body, ts) ← list (← expectWord "do" ts)
  readRedirected false (.loop whileFails condition body) (← expectWord "done" ts)

/-- The rest of a loop over values. -/
def readEach (list : Reader Script) : Reader Script
  | .word w line :: ts => do
    match (plainText? w).filter isName with
    | none => throw ⟨.badVariable, line⟩
    | some name =>
      let (values, ts) ← readValues ts
      let (body, ts) ← list (← expectWord "do" (skipLines ts))
      readRedirected false (.each name values body) (← expectWord "done" ts)
  | .fault f line :: _ => .error ⟨f, line⟩
  | ts => .error ⟨.badVariable, lineOf ts⟩

/-- The rest of a choice. -/
def readChoice (list : Reader Script) : Reader Script
  | .word w _ :: ts => do
    let ts ← expectWord "in" (skipLines ts)
    let (body, ts) ← readCases list w (ts.length + 1) ts
    readRedirected false body ts
  | ts => unexpected false (some "word") ts

/-- A command that is only words and redirections. -/
def readPlain : Reader Script := fun ts => do
  let ((ws, rs), rest) ← readSimple (ts.length + 1) ts
  return (.simple (lineOf ts) ws rs, rest)

/-- A command. At most `depth` commands are open. -/
def readCommand : (depth : Nat) → Reader Script
  | 0, ts => unexpected true none ts
  | depth + 1, ts =>
    let list (started : Bool) : Reader Script :=
      readList (readAndOr (readCommand depth)) (ts.length + 1) started
    let rest := ts.drop 1
    match reserved? ts, ts with
    | some "if", _ => do
      let (body, ts) ← readBranch (list false) (ts.length + 1) rest
      readRedirected false body ts
    | some "while", _ => readLoop (list false) false rest
    | some "until", _ => readLoop (list false) true rest
    | some "for", _ => readEach (list false) rest
    | some "case", _ => readChoice (list true) rest
    | some "\x7b", _ => do
      let (body, ts) ← list false rest
      readRedirected false body (← expectWord "\x7d" ts)
    | some _, _ => unexpected true none ts
    | none, .operator "(" _ :: _ => do
      let (body, ts) ← list false rest
      readRedirected true body (← expectOperator ")" ts)
    | none, .word w line :: .operator "(" _ :: inner =>
      if isAssignment w then readPlain ts
      else if !isOperator ")" inner then unexpected false (some ")") inner
      else
        match (plainText? w).filter fun s => isName s && !reservedNames.contains s with
        | none => .error ⟨.badFunction, line⟩
        | some name => do
          let (body, ts) ← readCommand depth (skipLines (inner.drop 1))
          return (.define name body, ts)
    | none, .word .. :: _ | none, .redirect .. :: _ | none, .lines .. :: _ => readPlain ts
    | none, ts => unexpected true none ts

/-- The commands of one line. -/
def readLine (depth : Nat) : (bound : Nat) → Reader Script
  | 0, ts => .ok (.skip, ts)
  | bound + 1, ts =>
    if isEnding ts then .ok (.skip, ts)
    else if isOperator "\n" ts then .ok (.skip, ts.drop 1)
    else do
      let (first, ts) ← readAndOr (readCommand depth) ts
      match ts with
      | .operator ";" _ :: rest => do
        let (more, ts) ← readLine depth bound rest
        return (.sequence first more, ts)
      | .operator "&" _ :: rest => do
        let (more, ts) ← readLine depth bound rest
        return (.sequence (.background first) more, ts)
      | .operator "\n" _ :: rest => return (first, rest)
      | ts => if isEnding ts then return (first, ts) else unexpected true none ts

/-- What a text says: the commands of its lines, and what ends it. -/
structure Reading where
  lines : List Script
  error : Option SyntaxError

/-- The lines of tokens. -/
def readLines : (bound : Nat) → List Token → Reading
  | 0, _ => ⟨[], none⟩
  | bound + 1, ts =>
    if isEnding ts then ⟨[], none⟩
    else
      match readLine (ts.length + 1) (ts.length + 1) ts with
      | .error e => ⟨[], some e⟩
      | .ok (s, ts) =>
        let r := readLines bound ts
        { r with lines := s :: r.lines }

def read (text : String) : Reading :=
  let ts := tokenize text
  readLines (ts.length + 1) ts

end Testsmith.Shell
