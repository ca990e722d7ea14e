/-
# Calculations in arguments

Each argument is an operand or an operator: numbers are added and compared, and texts are compared or
matched with an expression.

Key definitions: `Shell.Calculation.combine`, `Shell.Calculation.read`, `Shell.calculate`.
-/
import Testsmith.Shell.Regex
import Testsmith.Shell.State

namespace Testsmith.Shell.Calculation

/-- The text counts as false. -/
def isNothing (a : String) : Bool :=
  a.isEmpty || (a.toInt? == some 0)

def ofBool (b : Bool) : String := if b then "1" else "0"

/-- What two numbers are. -/
def numbers (f : Int → Int → Except String Int) (a b : String) : Except String String :=
  match a.toInt?, b.toInt? with
  | some m, some n => (f m n).map toString
  | _, _ => .error "non-integer argument"

/-- What an expression finds at the start of a text: its first group, or the length. -/
def matching (text pattern : String) : Except String String :=
  match Regex.read? false pattern with
  | none => .error "Invalid regular expression"
  | some e =>
    let grouped := (pattern.splitOn "\\(").length > 1
    match Regex.longest (e.ways id ⟨[], text.toList, []⟩) with
    | none => .ok (if grouped then "" else "0")
    | some p =>
      if grouped then .ok (String.ofList ((p.groups.lookup 1).getD []))
      else .ok (toString (text.length - p.rest.length))

/-- What an operator makes of two operands. -/
def combine (op a b : String) : Except String String :=
  let compared : Ordering :=
    match a.toInt?, b.toInt? with
    | some m, some n => compare m n
    | _, _ => compare a b
  match op with
  | "|" => .ok (if isNothing a then if isNothing b then "0" else b else a)
  | "&" => .ok (if isNothing a || isNothing b then "0" else a)
  | "=" | "==" => .ok (ofBool (compared == .eq))
  | "!=" => .ok (ofBool (compared != .eq))
  | "<" => .ok (ofBool (compared == .lt))
  | "<=" => .ok (ofBool (compared != .gt))
  | ">" => .ok (ofBool (compared == .gt))
  | ">=" => .ok (ofBool (compared != .lt))
  | "+" => numbers (fun m n => .ok (m + n)) a b
  | "-" => numbers (fun m n => .ok (m - n)) a b
  | "*" => numbers (fun m n => .ok (m * n)) a b
  | "/" => numbers (fun m n => if n = 0 then .error "division by zero" else .ok (m.tdiv n)) a b
  | "%" => numbers (fun m n => if n = 0 then .error "division by zero" else .ok (m.tmod n)) a b
  | _ => matching a b

/-- How tightly an operator binds its operands. -/
def tightness? (op : String) : Option Nat :=
  [("|", 1), ("&", 2), ("=", 3), ("==", 3), ("!=", 3), ("<", 3), ("<=", 3), (">", 3), (">=", 3),
   ("+", 4), ("-", 4), ("*", 5), ("/", 5), ("%", 5), (":", 6)].lookup op

/-- The value of operands with operators of at least a tightness between them, and what follows.
Without an operand there is nothing to say. -/
def read : (bound : Nat) → (least : Nat) → List String → Except String (String × List String)
  | 0, _, _ | _, _, [] => .error ""
  | bound + 1, least, a :: rest => do
    let (value, rest) ←
      match a, rest with
      | "(", rest => do
        let (value, rest) ← read bound 1 rest
        match rest with
        | ")" :: rest => pure (value, rest)
        | _ => throw "syntax error: expecting ')'"
      | "length", text :: rest => pure (toString text.utf8ByteSize, rest)
      | a, rest => pure (a, rest)
    more bound (rest.length + 1) least value rest
where
  /-- Goes on with operators after a value. -/
  more (bound : Nat) : (count : Nat) → (least : Nat) → String → List String →
      Except String (String × List String)
    | count + 1, least, value, op :: rest =>
      match tightness? op with
      | none => .ok (value, op :: rest)
      | some t =>
        if t < least then .ok (value, op :: rest)
        else do
          let (other, rest) ← read bound (t + 1) rest
          more bound count least (← combine op value other) rest
    | _, _, value, rest => .ok (value, rest)

end Testsmith.Shell.Calculation

namespace Testsmith.Shell

/-- Writes the value of a calculation; it fails if that counts as false. -/
def calculate : Utility := fun args s =>
  match Calculation.read (args.length + 1) 1 args with
  | .error "" =>
    match args.getLast? with
    | some a => s.complain 2 ("expr: syntax error: missing argument after '" ++ a ++ "'")
    | none => s.misuse 2 "expr" "missing operand"
  | .error text => s.complain 2 ("expr: " ++ text)
  | .ok (_, a :: _) => s.complain 2 ("expr: syntax error: unexpected argument '" ++ a ++ "'")
  | .ok (value, []) =>
    { state := { s with status := if Calculation.isNothing value then 1 else 0 }
      written := [(.output, (value ++ "\n").toUTF8)] }

end Testsmith.Shell
