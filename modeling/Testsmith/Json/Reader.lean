/-
# Reading JSON

Key definitions: `Json.readValue`, `Json.parse?`, `Json.fields?`.
-/
import Testsmith.Json.Value
import Testsmith.Text.Hex

namespace Testsmith.Json

open Text (hexValue?)

/-- A reader of the start of a text: what was read, and the rest. -/
abbrev Reader (α : Type) := List Char → Option (α × List Char)

def isSpace (c : Char) : Bool := c == ' ' || c == '\n' || c == '\t' || c == '\r'

def skipSpace (cs : List Char) : List Char := cs.dropWhile isSpace

/-! ### Texts -/

/-- A number of sixteen bits in hexadecimal digits. -/
def readUnit : Reader Nat
  | a :: b :: c :: d :: cs => do
    let high := 16 * (← hexValue? a) + (← hexValue? b)
    let low := 16 * (← hexValue? c) + (← hexValue? d)
    return (256 * high + low, cs)
  | _ => none

/-- A character given by one such number, or by two that belong together. -/
def readUnits (cs : List Char) : Option (Char × List Char) := do
  let (n, cs) ← readUnit cs
  if 0xd800 ≤ n ∧ n < 0xdc00 then
    match cs with
    | '\\' :: 'u' :: cs =>
      let (m, cs) ← readUnit cs
      if 0xdc00 ≤ m ∧ m < 0xe000 then
        return (Char.ofNat (0x10000 + (n - 0xd800) * 0x400 + (m - 0xdc00)), cs)
      else none
    | _ => none
  else if n.isValidChar then return (Char.ofNat n, cs)
  else none

/-- What follows a backslash. -/
def readEscape : Reader Char
  | '"' :: cs => some ('"', cs)
  | '\\' :: cs => some ('\\', cs)
  | '/' :: cs => some ('/', cs)
  | 'b' :: cs => some ('\x08', cs)
  | 'f' :: cs => some ('\x0c', cs)
  | 'n' :: cs => some ('\n', cs)
  | 'r' :: cs => some ('\r', cs)
  | 't' :: cs => some ('\t', cs)
  | 'u' :: cs => readUnits cs
  | _ => none

/-- The rest of a text up to its closing quote. -/
def readText : (bound : Nat) → Reader (List Char)
  | 0, _ => none
  | _, [] => none
  | _, '"' :: cs => some ([], cs)
  | bound + 1, '\\' :: cs => do
    let (c, cs) ← readEscape cs
    let (s, cs) ← readText bound cs
    return (c :: s, cs)
  | bound + 1, c :: cs =>
    if c < ' ' then none else (readText bound cs).map fun (s, cs) => (c :: s, cs)

def readString (cs : List Char) : Option (String × List Char) :=
  match cs with
  | '"' :: cs => (readText (cs.length + 1) cs).map fun (s, cs) => (String.ofList s, cs)
  | _ => none

/-! ### Numbers -/

/-- One digit or more. -/
def readDigits (cs : List Char) : Option (List Char × List Char) :=
  match cs.takeWhile Char.isDigit with
  | [] => none
  | ds => some (ds, cs.dropWhile Char.isDigit)

def decimalValue (ds : List Char) : Nat := ds.foldl (fun n c => 10 * n + (c.toNat - '0'.toNat)) 0

/-- What follows the point of a number, if there is one. -/
def readFraction (cs : List Char) : Option (Option (List Char) × List Char) :=
  match cs with
  | '.' :: cs => (readDigits cs).map fun (ds, cs) => (some ds, cs)
  | cs => some (none, cs)

/-- The exponent of a number, if there is one. -/
def readExponent (cs : List Char) : Option (Option Int × List Char) :=
  match cs with
  | 'e' :: cs | 'E' :: cs =>
    let (negative, cs) :=
      match cs with
      | '-' :: cs => (true, cs)
      | '+' :: cs => (false, cs)
      | cs => (false, cs)
    (readDigits cs).map fun (ds, cs) =>
      (some (if negative then -(decimalValue ds : Int) else decimalValue ds), cs)
  | cs => some (none, cs)

/-- A number. It is whole when it has no point, no exponent, and is not minus zero. -/
def readNumber (cs : List Char) : Option (Json × List Char) := do
  let (negative, cs) :=
    match cs with
    | '-' :: cs => (true, cs)
    | cs => (false, cs)
  let (whole, cs) ← readDigits cs
  if whole.length ≠ 1 && whole.head? == some '0' then none
  else
    let (fraction, cs) ← readFraction cs
    let (power, cs) ← readExponent cs
    let n : Int := decimalValue whole
    if fraction.isNone && power.isNone && !(negative && n = 0) then
      return (.integer (if negative then -n else n), cs)
    else
      let parts := fraction.getD []
      let x := floatOfDecimal ⟨decimalValue (whole ++ parts), power.getD 0 - parts.length⟩
      return (.float (if negative then -x else x), cs)

/-! ### Values -/

/-- The elements of an array that has some, up to its bracket. -/
def readElements (value : Reader Json) : (bound : Nat) → Reader (List Json)
  | 0, _ => none
  | bound + 1, cs => do
    let (v, cs) ← value cs
    match skipSpace cs with
    | ']' :: cs => return ([v], cs)
    | ',' :: cs =>
      let (vs, cs) ← readElements value bound cs
      return (v :: vs, cs)
    | _ => none

/-- The entries of an object that has some, up to its brace. -/
def readEntries (value : Reader Json) : (bound : Nat) → Reader (List (String × Json))
  | 0, _ => none
  | bound + 1, cs => do
    let (k, cs) ← readString (skipSpace cs)
    match skipSpace cs with
    | ':' :: cs =>
      let (v, cs) ← value cs
      match skipSpace cs with
      | '\x7d' :: cs => return ([(k, v)], cs)
      | ',' :: cs =>
        let (es, cs) ← readEntries value bound cs
        return ((k, v) :: es, cs)
      | _ => none
    | _ => none

/-- A value that is neither array nor object. -/
def readSimple (cs : List Char) : Option (Json × List Char) :=
  match cs with
  | 'n' :: 'u' :: 'l' :: 'l' :: cs => some (.null, cs)
  | 't' :: 'r' :: 'u' :: 'e' :: cs => some (.boolean true, cs)
  | 'f' :: 'a' :: 'l' :: 's' :: 'e' :: cs => some (.boolean false, cs)
  | '"' :: cs => (readString ('"' :: cs)).map fun (s, cs) => (.text s, cs)
  | cs => readNumber cs

/-- A value. At most `depth` brackets may be open. -/
def readValue : (depth : Nat) → Reader Json
  | 0, cs => readSimple (skipSpace cs)
  | depth + 1, cs =>
    match skipSpace cs with
    | '[' :: cs =>
      match skipSpace cs with
      | ']' :: cs => some (.array [], cs)
      | cs => (readElements (readValue depth) (cs.length + 1) cs).map fun (vs, cs) => (.array vs, cs)
    | '\x7b' :: cs =>
      match skipSpace cs with
      | '\x7d' :: cs => some (.object [], cs)
      | cs => (readEntries (readValue depth) (cs.length + 1) cs).map fun (es, cs) => (.object es, cs)
    | cs => readSimple cs

/-- The value a text states. -/
def parse? (text : String) : Option Json :=
  match readValue 127 text.toList with
  | some (v, cs) => if (skipSpace cs).isEmpty then some v else none
  | none => none

/-! ### Records -/

/-- The values of the keys of a record. It is an object that states none of them twice, or an array of
the values in order. -/
def fields? (keys : List String) : Json → Option (List (Option Json))
  | object es =>
    if keys.all fun k => (es.filter (·.1 == k)).length ≤ 1 then
      some (keys.map fun k => es.lookup k)
    else none
  | array vs =>
    if vs.length ≤ keys.length then some ((List.range keys.length).map fun i => vs[i]?) else none
  | _ => none

end Testsmith.Json
