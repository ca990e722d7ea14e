/-
# Expressions of a script

Whole numbers of 64 bits with the operators of C. Names stand for parameters; one that is not set is
zero.

Key definitions: `Shell.Expression`, `Shell.Expression.read`, `Shell.Expression.value`.
-/
import Testsmith.Shell.Syntax
import Testsmith.Text.Hex

namespace Testsmith.Shell

inductive Expression
  | number (n : Int)
  | parameter (name : String)
  | unary (operator : String) (a : Expression)
  | binary (operator : String) (a b : Expression)
  | choice (condition yes no : Expression)
  /-- Sets a parameter to the outcome of an operator, or just to the value. -/
  | assign (name : String) (operator : Option String) (a : Expression)
  deriving Repr

/-- Why an expression has no value. -/
inductive ArithmeticFault
  | malformed
  /-- Something stands after the expression. -/
  | goesOn
  | divisionByZero
  /-- The value of a parameter is no number. -/
  | illegal (text : String)
  deriving DecidableEq, Repr

def ArithmeticFault.reason : ArithmeticFault → String
  | malformed => "expecting primary"
  | goesOn => "expecting EOF"
  | divisionByZero => "division by zero"
  | illegal text => text

namespace Expression

/-- The number among those of 64 bits that is the same but for what does not fit. -/
def wrap (n : Int) : Int := n.bmod UInt64.size

/-! ### Reading -/

inductive Token
  | number (n : Nat)
  | name (s : String)
  | operator (s : String)
  deriving DecidableEq, Repr

/-- The operators, longer ones first. -/
def operators : List String :=
  ["<<=", ">>=", "<<", ">>", "<=", ">=", "==", "!=", "&&", "||", "+=", "-=", "*=", "/=", "%=", "&=",
   "|=", "^=", "+", "-", "*", "/", "%", "<", ">", "=", "!", "~", "&", "|", "^", "?", ":", "(", ")",
   ","]

/-- A number: hexadecimal after `0x`, octal after `0`, else decimal. -/
def number? (cs : List Char) : Option Nat :=
  let inBase (base : Nat) (ds : List Char) : Option Nat :=
    if ds.isEmpty then none
    else ds.foldlM (fun n c => do
      let d ← Text.hexValue? c
      if d < base then some (base * n + d) else none) 0
  match cs with
  | '0' :: 'x' :: ds | '0' :: 'X' :: ds => inBase 16 ds
  | '0' :: d :: ds => inBase 8 (d :: ds)
  | ds => inBase 10 ds

def tokens? : (bound : Nat) → List Char → Option (List Token)
  | 0, _ | _, [] => some []
  | bound + 1, c :: cs =>
    if c = ' ' || c = '\t' || c = '\n' then tokens? bound cs
    else if isNameChar c then
      let word := (c :: cs).takeWhile isNameChar
      let rest := (c :: cs).dropWhile isNameChar
      if c.isDigit then do return .number (← number? word) :: (← tokens? bound rest)
      else do return .name (String.ofList word) :: (← tokens? bound rest)
    else
      match operators.find? fun s => s.toList.isPrefixOf (c :: cs) with
      | some s => do return .operator s :: (← tokens? bound ((c :: cs).drop s.length))
      | none => none

/-- How tightly an operator binds its sides. -/
def tightness? (s : String) : Option Nat :=
  [("||", 1), ("&&", 2), ("|", 3), ("^", 4), ("&", 5), ("==", 6), ("!=", 6), ("<", 7), (">", 7),
   ("<=", 7), (">=", 7), ("<<", 8), (">>", 8), ("+", 9), ("-", 9), ("*", 10), ("/", 10),
   ("%", 10)].lookup s

/-- The operator in an assignment, if it is one. -/
def assignment? (s : String) : Option (Option String) :=
  if s = "=" then some none
  else if ["+=", "-=", "*=", "/=", "%=", "&=", "|=", "^=", "<<=", ">>="].contains s then
    some (some (String.ofList s.toList.dropLast))
  else none

/-- A reader of tokens. -/
abbrev Reader := List Token → Option (Expression × List Token)

/-- An operand: a number, a name, an operator and its operand, or an expression in parentheses. -/
def readOperand (whole : Reader) : (bound : Nat) → Reader
  | _ + 1, .operator "(" :: ts => do
    let (e, ts) ← whole ts
    match ts with
    | .operator ")" :: ts => some (e, ts)
    | _ => none
  | bound + 1, .operator s :: ts =>
    if ["+", "-", "!", "~"].contains s then
      (readOperand whole bound ts).map fun (e, ts) => (.unary s e, ts)
    else none
  | _, .number n :: ts => some (.number n, ts)
  | _, .name s :: ts => some (.parameter s, ts)
  | _, _ => none

/-- Operands with operators of at least a tightness between them. -/
def readBinary (operand : Reader) : (bound : Nat) → (least : Nat) → Expression → Reader
  | bound + 1, least, a, .operator s :: ts =>
    match tightness? s with
    | some t =>
      if t < least then some (a, .operator s :: ts)
      else do
        let (b, ts) ← operand ts
        let (b, ts) ← readBinary operand bound (t + 1) b ts
        readBinary operand bound least (.binary s a b) ts
    | none => some (a, .operator s :: ts)
  | _, _, a, ts => some (a, ts)

/-- An expression, with at most `depth` inside one another. -/
def readWhole : (depth : Nat) → Reader
  | 0, _ => none
  | depth + 1, ts => do
    let whole := readWhole depth
    let n := ts.length + 1
    let assigned : Option (Expression × List Token) :=
      match ts with
      | .name s :: .operator o :: ts =>
        (assignment? o).bind fun op => (whole ts).map fun (e, ts) => (.assign s op e, ts)
      | _ => none
    match assigned with
    | some r => some r
    | none =>
      let operand := readOperand whole n
      let (a, ts) ← operand ts
      let (a, ts) ← readBinary operand n 1 a ts
      match ts with
      | .operator "?" :: ts =>
        let (b, ts) ← whole ts
        match ts with
        | .operator ":" :: ts =>
          let (c, ts) ← whole ts
          some (.choice a b c, ts)
        | _ => none
      | ts => some (a, ts)

/-- The expression in a text. An empty one is zero. -/
def read (cs : List Char) : Except ArithmeticFault Expression :=
  match tokens? cs.length cs with
  | none => .error .goesOn
  | some [] => .ok (.number 0)
  | some ts =>
    match readWhole (ts.length + 1) ts with
    | some (e, []) => .ok e
    | some _ => .error .goesOn
    | none => .error .malformed

/-! ### Values -/

def ofBool (b : Bool) : Int := if b then 1 else 0

/-- The value of an operator. -/
def apply (operator : String) (a b : Int) : Except ArithmeticFault Int :=
  match operator with
  | "+" => .ok (wrap (a + b))
  | "-" => .ok (wrap (a - b))
  | "*" => .ok (wrap (a * b))
  | "/" => if b = 0 then .error .divisionByZero else .ok (wrap (a.tdiv b))
  | "%" => if b = 0 then .error .divisionByZero else .ok (wrap (a.tmod b))
  | "==" => .ok (ofBool (a = b))
  | "!=" => .ok (ofBool (a ≠ b))
  | "<" => .ok (ofBool (a < b))
  | ">" => .ok (ofBool (b < a))
  | "<=" => .ok (ofBool (a ≤ b))
  | ">=" => .ok (ofBool (b ≤ a))
  | "&" => .ok (wrap (Int64.ofInt a &&& Int64.ofInt b).toInt)
  | "|" => .ok (wrap (Int64.ofInt a ||| Int64.ofInt b).toInt)
  | "^" => .ok (wrap (Int64.ofInt a ^^^ Int64.ofInt b).toInt)
  | "<<" => .ok (wrap (a * Nat.pow 2 (b.toNat % 64)))
  | ">>" => .ok (a / Nat.pow 2 (b.toNat % 64))
  | _ => .error .malformed

/-- The values of parameters. -/
abbrev Bindings := List (String × String)

/-- The number that the value of a parameter is. -/
def valueOf (bindings : Bindings) (name : String) : Except ArithmeticFault Int :=
  let text := (bindings.lookup name).getD ""
  if text.isEmpty then .ok 0
  else
    let (sign, digits) :=
      match text.toList with
      | '-' :: cs => (-1, cs)
      | '+' :: cs => (1, cs)
      | cs => (1, cs)
    match number? digits with
    | some n => .ok (wrap (sign * n))
    | none => .error (.illegal text)

/-- The value of an expression, and the parameters after its assignments. -/
def value (bindings : Bindings) : Expression → Except ArithmeticFault (Int × Bindings)
  | number n => .ok (wrap n, bindings)
  | parameter name => do return (← valueOf bindings name, bindings)
  | unary operator a => do
    let (n, bindings) ← value bindings a
    match operator with
    | "-" => .ok (wrap (-n), bindings)
    | "!" => .ok (ofBool (n = 0), bindings)
    | "~" => .ok (wrap (-n - 1), bindings)
    | _ => .ok (n, bindings)
  | binary operator a b => do
    let (m, bindings) ← value bindings a
    if operator = "&&" && m = 0 then return (0, bindings)
    else if operator = "||" && m ≠ 0 then return (1, bindings)
    else
      let (n, bindings) ← value bindings b
      if operator = "&&" || operator = "||" then return (ofBool (n ≠ 0), bindings)
      else return (← apply operator m n, bindings)
  | choice condition yes no => do
    let (n, bindings) ← value bindings condition
    if n ≠ 0 then value bindings yes else value bindings no
  | assign name operator a => do
    let (n, bindings) ← value bindings a
    let n ←
      match operator with
      | none => pure n
      | some o => do apply o (← valueOf bindings name) n
    return (n, (name, toString n) :: bindings)

end Expression

end Testsmith.Shell
