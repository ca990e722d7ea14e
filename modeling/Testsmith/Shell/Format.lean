/-
# Formats

Text with escapes, and formats with directives: a directive sets the next argument, with a least
width, a precision and flags. A format is used again as long as arguments are left.

Key definitions: `Shell.unescape`, `Shell.Layout`, `Shell.format`.
-/
import Testsmith.Decimal.Shortest
import Testsmith.Shell.Arithmetic

namespace Testsmith.Shell

/-- The bytes of some characters. -/
def bytesOf (cs : List Char) : List UInt8 := (String.ofList cs).toUTF8.toList

def toBytes (bs : List UInt8) : ByteArray := ⟨bs.toArray⟩

/-! ### Escapes -/

/-- The byte of at most three octal digits at the front, and what follows. -/
def readOctal (cs : List Char) : UInt8 × List Char :=
  let ds := (cs.take 3).takeWhile fun c => '0' ≤ c && c ≤ '7'
  (UInt8.ofNat (ds.foldl (fun n c => 8 * n + (c.toNat - '0'.toNat)) 0), cs.drop ds.length)

/-- The byte that an escape stands for, after the backslash. -/
def readEscape : List Char → Option (UInt8 × List Char)
  | 'n' :: cs => some (10, cs)
  | 't' :: cs => some (9, cs)
  | 'r' :: cs => some (13, cs)
  | 'a' :: cs => some (7, cs)
  | 'b' :: cs => some (8, cs)
  | 'f' :: cs => some (12, cs)
  | 'v' :: cs => some (11, cs)
  | '\\' :: cs => some (92, cs)
  | c :: cs => if '0' ≤ c && c ≤ '7' then some (readOctal (c :: cs)) else none
  | [] => none

/-- A text in which escapes are replaced, and whether it goes on: it ends at `\c`. A zero may stand
before octal digits. -/
def unescape : (bound : Nat) → List Char → List UInt8 × Bool
  | 0, _ | _, [] => ([], true)
  | bound + 1, '\\' :: cs =>
    match cs with
    | 'c' :: _ => ([], false)
    | _ =>
      let digits :=
        match cs with
        | '0' :: d :: cs => if '0' ≤ d && d ≤ '7' then d :: cs else '0' :: d :: cs
        | cs => cs
      match readEscape digits with
      | some (b, cs) => add [b] (unescape bound cs)
      | none => add [92] (unescape bound cs)
  | bound + 1, c :: cs => add (bytesOf [c]) (unescape bound cs)
where
  add (bs : List UInt8) (r : List UInt8 × Bool) : List UInt8 × Bool := (bs ++ r.1, r.2)

def unescaped (s : String) : List UInt8 × Bool := unescape s.length s.toList

/-! ### Directives -/

/-- How a value is set. -/
structure Layout where
  flags : List Char := []
  width : Nat := 0
  precision : Option Nat := none

namespace Layout

/-- Fills up to the width with blanks, at the front unless the value stands at the left. -/
def fill (l : Layout) (bs : List UInt8) : List UInt8 :=
  let blanks := List.replicate (l.width - bs.length) 32
  if l.flags.contains '-' then bs ++ blanks else blanks ++ bs

/-- A number with its sign: the precision is the least count of digits, and zeros may take the place
of blanks. -/
def number (l : Layout) (sign digits : String) : List UInt8 :=
  let digits := if l.precision = some 0 && digits = "0" then "" else digits
  let least :=
    match l.precision with
    | some p => p
    | none => if l.flags.contains '0' && !l.flags.contains '-' then l.width - sign.length else 0
  let zeros := String.ofList (List.replicate (least - digits.length) '0')
  l.fill (sign ++ zeros ++ digits).toUTF8.toList

/-- A number with a sign, if one is wanted. -/
def signed (l : Layout) (n : Int) : List UInt8 :=
  let sign :=
    if n < 0 then "-"
    else if l.flags.contains '+' then "+"
    else if l.flags.contains ' ' then " "
    else ""
  l.number sign (toString n.natAbs)

/-- A number without a sign, in the base of a directive. -/
def unsigned (l : Layout) (directive : Char) (n : Int) : List UInt8 :=
  let n := (n.emod UInt64.size).toNat
  let inBase (base : Nat) : String := String.ofList (Nat.toDigits base n)
  let mark (text : String) : String := if l.flags.contains '#' && n ≠ 0 then text else ""
  match directive with
  | 'o' => l.number "" (mark "0" ++ inBase 8)
  | 'x' => l.number (mark "0x") (inBase 16)
  | 'X' => l.number (mark "0X") (inBase 16).toUpper
  | _ => l.number "" (inBase 10)

/-- A number with so many places after the point, six if nothing is said. -/
def fixed (l : Layout) (negative : Bool) (size : Decimal) : List UInt8 :=
  let places := l.precision.getD 6
  let shift := size.exponent + places
  let units : Nat :=
    if 0 ≤ shift then size.digits * Nat.pow 10 shift.toNat
    else
      let unit := Nat.pow 10 (-shift).toNat
      let (whole, part) := (size.digits / unit, size.digits % unit)
      if unit < 2 * part || (unit = 2 * part && whole % 2 = 1) then whole + 1 else whole
  let part := toString (units % Nat.pow 10 places)
  let part := String.ofList (List.replicate (places - part.length) '0') ++ part
  let digits := toString (units / Nat.pow 10 places) ++ if places = 0 then "" else "." ++ part
  let sign := if negative then "-" else if l.flags.contains '+' then "+" else ""
  { l with precision := none }.number sign digits

/-- A text, of which the precision is the greatest length. -/
def text (l : Layout) (bs : List UInt8) : List UInt8 :=
  l.fill (match l.precision with
    | some p => bs.take p
    | none => bs)

end Layout

/-- The number an argument means, and what is wrong with it. -/
def argumentNumber (arg : String) : Int × Option String :=
  let cs := arg.toList
  match cs with
  | [] => (0, none)
  | '\'' :: cs | '"' :: cs => (((cs.head?.map (·.toNat)).getD 0 : Nat), none)
  | _ =>
    let (sign, rest) : Int × List Char :=
      match cs.dropWhile Char.isWhitespace with
      | '-' :: cs => (-1, cs)
      | '+' :: cs => (1, cs)
      | cs => (1, cs)
    let digits := rest.takeWhile Char.isAlphanum
    match Expression.number? digits, rest.drop digits.length with
    | some n, [] => (sign * n, none)
    | some n, _ => (sign * n, some (arg ++ ": not completely converted"))
    | none, _ =>
      let front := rest.takeWhile Char.isDigit
      match Expression.number? front with
      | some n => (sign * n, some (arg ++ ": not completely converted"))
      | none => (0, some (arg ++ ": expected numeric value"))

/-- The number with a point that an argument means, and what is wrong with it. -/
def argumentFloat (arg : String) : Bool × Decimal × Option String :=
  let (negative, cs) : Bool × List Char :=
    match arg.toList with
    | '-' :: cs => (true, cs)
    | '+' :: cs => (false, cs)
    | cs => (false, cs)
  let whole := cs.takeWhile Char.isDigit
  let (part, rest) : List Char × List Char :=
    match cs.drop whole.length with
    | '.' :: cs => (cs.takeWhile Char.isDigit, cs.dropWhile Char.isDigit)
    | cs => ([], cs)
  let digits := (String.ofList (whole ++ part)).toNat?.getD 0
  let nearest := floatOfDecimal ⟨digits, -(part.length : Int)⟩
  let wrong :=
    if arg.isEmpty then none
    else if (whole ++ part).isEmpty then some (arg ++ ": expected numeric value")
    else if rest.isEmpty then none
    else some (arg ++ ": not completely converted")
  (negative, (Binary.ofBits nearest.toBits.toNat).exact, wrong)

/-- What a format has written, with complaints, the arguments that are left, and whether it goes
on. -/
structure Printed where
  bytes : List UInt8 := []
  complaints : List String := []
  rest : List String
  goesOn : Bool := true
  /-- The format is wrong. -/
  wrong : Bool := false

/-- Puts something before. -/
def Printed.after (p : Printed) (bs : List UInt8) (complaint : Option String := none) : Printed :=
  { p with bytes := bs ++ p.bytes, complaints := complaint.toList ++ p.complaints }

/-- A number in a directive, which may be the next argument, and what follows. -/
def readSize (cs : List Char) (args : List String) : Option Int × List Char × List String :=
  match cs with
  | '*' :: cs => (some (argumentNumber (args.head?.getD "")).1, cs, args.drop 1)
  | cs =>
    let digits := cs.takeWhile Char.isDigit
    ((String.ofList digits).toNat?.map Int.ofNat, cs.drop digits.length, args)

/-- The layout at the start of a directive. -/
def readLayout (cs : List Char) (args : List String) : Layout × List Char × List String :=
  let flags := cs.takeWhile ['#', '-', '+', ' ', '0'].contains
  let (width, cs, args) := readSize (cs.drop flags.length) args
  let flags := if width.any (· < 0) then '-' :: flags else flags
  let layout : Layout := { flags, width := (width.getD 0).natAbs }
  match cs with
  | '.' :: cs =>
    let (precision, cs, args) := readSize cs args
    ({ layout with precision := some (precision.getD 0).toNat }, cs, args)
  | cs => (layout, cs, args)

/-- Writes a format once. -/
def formatOnce : (bound : Nat) → List Char → List String → Printed
  | 0, _, args | _, [], args => { rest := args }
  | bound + 1, '\\' :: cs, args =>
    match readEscape cs with
    | some (b, cs) => (formatOnce bound cs args).after [b]
    | none => (formatOnce bound cs args).after [92]
  | bound + 1, '%' :: '%' :: cs, args => (formatOnce bound cs args).after [37]
  | bound + 1, '%' :: cs, args =>
    let (layout, rest, args) := readLayout cs args
    let arg := args.head?.getD ""
    let next (cs : List Char) (bs : List UInt8) (complaint : Option String) : Printed :=
      (formatOnce bound cs (args.drop 1)).after bs complaint
    match rest with
    | [] => { rest := [], complaints := ["missing format character"], goesOn := false, wrong := true }
    | c :: more =>
      let (n, complaint) := argumentNumber arg
      match c with
      | 's' => next more (layout.text arg.toUTF8.toList) none
      | 'c' => next more (layout.fill (arg.toUTF8.toList.take 1)) none
      | 'b' =>
        let (bs, goesOn) := unescaped arg
        if goesOn then next more (layout.text bs) none
        else { bytes := layout.text bs, rest := [], goesOn := false }
      | 'f' | 'F' =>
        let (negative, size, complaint) := argumentFloat arg
        next more (layout.fixed negative size) complaint
      | 'd' | 'i' => next more (layout.signed n) complaint
      | 'o' | 'u' | 'x' | 'X' => next more (layout.unsigned c n) complaint
      | _ =>
        { rest := [], goesOn := false, wrong := true
          complaints :=
            ["%" ++ String.ofList (cs.take (cs.length - more.length)) ++ ": invalid directive"] }
  | bound + 1, c :: cs, args => (formatOnce bound cs args).after (bytesOf [c])

/-- Writes a format as often as there are arguments for it. -/
def format (fmt : List Char) : (bound : Nat) → List String → Printed
  | 0, args => { rest := args }
  | bound + 1, args =>
    let p := formatOnce fmt.length fmt args
    if !p.goesOn || p.rest.isEmpty || p.rest.length = args.length then p
    else
      let q := format fmt bound p.rest
      { q with bytes := p.bytes ++ q.bytes, complaints := p.complaints ++ q.complaints }

end Testsmith.Shell
