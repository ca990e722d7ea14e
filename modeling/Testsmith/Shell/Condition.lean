/-
# Conditions

What the words of a condition say about files, texts and numbers. Whether a word is an operator
depends on what comes after it: the last word never is, and a word before a comparison is not either.

Key definitions: `Shell.Condition.Mark`, `Shell.Condition.markOf`, `Shell.Condition.holds`.
-/
import Testsmith.Shell.State

namespace Testsmith.Shell.Condition

/-- Why words make no condition. -/
inductive Fault
  | number (text : String)
  /-- Nothing follows an operator. -/
  | missingAfter (operator : String)
  | missingParenthesis
  /-- More words follow. -/
  | unexpected (word : String) (next : String)
  deriving DecidableEq, Repr

/-- What a shell says. -/
def Fault.message : Fault → String
  | number text => "Illegal number: " ++ text
  | missingAfter operator => operator ++ ": argument expected"
  | missingParenthesis => "closing paren expected"
  | unexpected word _ => word ++ ": unexpected operator"

/-- What a program says. -/
def Fault.programMessage : Fault → String
  | number text => "invalid integer '" ++ text ++ "'"
  | missingAfter operator => "missing argument after '" ++ operator ++ "'"
  | missingParenthesis => "')' expected"
  | unexpected _ next => "'" ++ next ++ "': binary operator expected"

/-- What a word of a condition is. -/
inductive Mark
  | operand
  | unary
  | binary
  | not
  | and
  | or
  | opening
  | closing
  | missing
  deriving DecidableEq, Repr

def unaryOperators : List String :=
  ["-r", "-w", "-x", "-e", "-f", "-d", "-c", "-b", "-p", "-u", "-g", "-k", "-s", "-t", "-z", "-n",
   "-h", "-L", "-S", "-O", "-G"]

def binaryOperators : List String :=
  ["=", "!=", "<", ">", "-eq", "-ne", "-lt", "-le", "-gt", "-ge", "-nt", "-ot", "-ef"]

/-- What the first of some words is. -/
def markOf : List String → Mark
  | [] => .missing
  | a :: rest =>
    if unaryOperators.contains a then
      match rest with
      | [] => .operand
      | [_] => .unary
      | b :: _ => if binaryOperators.contains b then .operand else .unary
    else if binaryOperators.contains a then .binary
    else if a = "!" then .not
    else if a = "-a" then .and
    else if a = "-o" then .or
    else if a = "(" then if rest.isEmpty then .operand else .opening
    else if a = ")" then .closing
    else .operand

/-- A condition on one thing. -/
def unary (s : State) (op a : String) : Bool :=
  let path := s.path a
  match op with
  | "-z" => a.isEmpty
  | "-n" => !a.isEmpty
  | "-f" => s.tree.hasFile path
  | "-d" => s.tree.hasDirectory path
  | "-x" => s.tree.hasDirectory path || (s.tree.locate path).toOption.any s.programs.contains
  | "-e" | "-r" | "-w" | "-O" | "-G" => s.tree.has path
  | "-s" => s.tree.hasDirectory path || (s.tree.read path).toOption.any (0 < ·.size)
  | _ => false

/-- A number with blanks around it. -/
def number (a : String) : Except Fault Int :=
  let cs := (a.toList.dropWhile Char.isWhitespace).reverse.dropWhile Char.isWhitespace |>.reverse
  let (sign, digits) : Int × List Char :=
    match cs with
    | '-' :: cs => (-1, cs)
    | '+' :: cs => (1, cs)
    | cs => (1, cs)
  if digits.isEmpty || !digits.all Char.isDigit then .error (.number a)
  else .ok (sign * ((String.ofList digits).toNat?.getD 0 : Nat))

/-- A condition on two things. -/
def binary (s : State) (a op b : String) : Except Fault Bool :=
  let compared (f : Int → Int → Bool) : Except Fault Bool := do
    return f (← number a) (← number b)
  match op with
  | "=" => .ok (a == b)
  | "!=" => .ok (a != b)
  | "<" => .ok (a < b)
  | ">" => .ok (b < a)
  | "-eq" => compared (· == ·)
  | "-ne" => compared (· != ·)
  | "-lt" => compared (· < ·)
  | "-le" => compared (· ≤ ·)
  | "-gt" => compared (· > ·)
  | "-ge" => compared (· ≥ ·)
  | _ => .ok (op == "-ef" && s.tree.has (s.path a) &&
      (s.tree.locate (s.path a)).toOption == (s.tree.locate (s.path b)).toOption)

/-- The value of some words, and the words from the last one on that counts for it. -/
abbrev Outcome := Except Fault (Bool × List String)

/-- A condition in parentheses, on one or two things, or a text, which holds unless it is empty. A
word that is no operand may take the place of one. -/
def primary (s : State) (whole : List String → Outcome) (mark : Mark) (ws : List String) : Outcome :=
  match mark, ws with
  | .missing, _ | _, [] => .ok (false, ws)
  | .opening, _ :: inner =>
    if markOf inner = .closing then .ok (false, inner)
    else do
      let (r, ws) ← whole inner
      match ws.tail with
      | ")" :: rest => return (r, ")" :: rest)
      | _ => throw .missingParenthesis
  | .unary, op :: rest =>
    match rest with
    | [] => .error (.missingAfter op)
    | a :: _ => .ok (unary s op a, rest)
  | _, a :: rest =>
    if markOf rest = .binary then
      match rest with
      | op :: b :: more => do return (← binary s a op b, b :: more)
      | op :: [] => .error (.missingAfter op)
      | [] => .ok (!a.isEmpty, ws)
    else .ok (!a.isEmpty, ws)

/-- A condition or its opposite. -/
def negated (part : Mark → List String → Outcome) : Mark → List String → Outcome
  | .not, [a] => do
    let (r, ws) ← part .missing [a]
    return (!r, ws)
  | .not, _ :: b :: rest => do
    let (r, ws) ← negated part (markOf (b :: rest)) (b :: rest)
    return (!r, ws)
  | mark, ws => part mark ws

/-- Conditions with an operator between them, all of which are looked at. -/
def joined (join : Mark) (combine : Bool → Bool → Bool) (part : Mark → List String → Outcome) :
    (bound : Nat) → Mark → List String → Outcome
  | 0, mark, ws => part mark ws
  | bound + 1, mark, ws => do
    let (r, ws) ← part mark ws
    if markOf ws.tail = join then
      let next := ws.drop 2
      let (r', ws) ← joined join combine part bound (markOf next) next
      return (combine r r', ws)
    else return (r, ws)

/-- Conditions of which one holds, each of conditions that all hold. -/
def alternatives (s : State) : (bound : Nat) → Mark → List String → Outcome
  | 0, _, ws => .ok (false, ws)
  | bound + 1, mark, ws =>
    let whole (ws : List String) : Outcome := alternatives s bound (markOf ws) ws
    let n := ws.length
    joined .or (· || ·) (joined .and (· && ·) (negated (primary s whole)) n) n mark ws

/-- The words hold, of which the first is of a mark. -/
def wholly (s : State) (mark : Mark) (ws : List String) : Except Fault Bool := do
  let (r, ws) ← alternatives s (ws.length + 1) mark ws
  match ws with
  | a :: b :: _ => throw (.unexpected a b)
  | _ => return r

/-- The words of a condition hold, or make no sense. Three and four words are taken as they look: a
comparison, a condition in parentheses, or the opposite of one. -/
def holds (s : State) : List String → Except Fault Bool
  | [] => .ok false
  | a :: rest =>
    let ws := a :: rest
    let few := rest.length = 2 || rest.length = 3
    if rest.length = 2 && rest.head?.any binaryOperators.contains then wholly s .operand ws
    else if few && a = "(" && rest.getLast? = some ")" then
      wholly s (markOf rest.dropLast) rest.dropLast
    else if few && a = "!" then (holds s rest).map (!·)
    else wholly s (markOf ws) ws

end Testsmith.Shell.Condition
