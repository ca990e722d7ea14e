/-
# Numbers, dates and truth values in TOML

A value that is no text and has no brackets is a run of letters, digits and a few signs, which is
read as a whole.

Key definitions: `Toml.digitGroups?`, `Toml.integer?`, `Toml.float?`, `Toml.isMoment`,
`Toml.scalar?`, `Toml.readScalarValue`.
-/
import Testsmith.Decimal.Shortest
import Testsmith.Toml.Text
import Testsmith.Toml.Value

namespace Testsmith.Toml

open Text (hexValue?)

/-! ### Digits -/

/-- The digits of a text in which single underscores may stand between digits. -/
def digitGroups? (isDigit : Char → Bool) : List Char → Option (List Char)
  | [] => none
  | [c] => if isDigit c then some [c] else none
  | c :: '_' :: cs => if isDigit c then (digitGroups? isDigit cs).map (c :: ·) else none
  | c :: cs => if isDigit c then (digitGroups? isDigit cs).map (c :: ·) else none

/-- The value of digits in a base. -/
def valueOf (base : Nat) (digits : List Char) : Nat :=
  digits.foldl (fun n c => base * n + (hexValue? c).getD 0) 0

/-- The digits of a number that does not begin with a zero, unless it is zero. -/
def wholeDigits? (cs : List Char) : Option (List Char) :=
  match digitGroups? Char.isDigit cs with
  | some ['0'] => if cs = ['0'] then some ['0'] else none
  | some ('0' :: _) => none
  | digits => digits

/-- A sign, and what follows it. -/
def splitSign : List Char → Bool × List Char
  | '-' :: cs => (true, cs)
  | '+' :: cs => (false, cs)
  | cs => (false, cs)

/-! ### Whole numbers -/

/-- The number fits into a word of 64 bits. -/
def isWord (n : Int) : Bool := -0x8000000000000000 ≤ n && n < 0x8000000000000000

/-- The value of digits in a base, under the rule for underscores. -/
def baseValue? (base : Nat) (cs : List Char) : Option Int :=
  (digitGroups? (fun c => (hexValue? c).any (· < base)) cs).map fun ds => (valueOf base ds : Int)

/-- A whole number. -/
def integer? (cs : List Char) : Option Int :=
  let n? :=
    match cs with
    | '0' :: 'x' :: cs => baseValue? 16 cs
    | '0' :: 'o' :: cs => baseValue? 8 cs
    | '0' :: 'b' :: cs => baseValue? 2 cs
    | cs =>
      let (negative, cs) := splitSign cs
      (wholeDigits? cs).map fun ds => if negative then -(valueOf 10 ds : Int) else valueOf 10 ds
  n?.filter isWord

/-! ### Floating-point numbers -/

/-- The text before the first character of a kind, and the text after it if there is one. -/
def cut (p : Char → Bool) (cs : List Char) : List Char × Option (List Char) :=
  (cs.takeWhile (!p ·), ((cs.dropWhile (!p ·)).head?).map fun _ => (cs.dropWhile (!p ·)).drop 1)

/-- The exponent of a number. -/
def exponent? (cs : List Char) : Option Int :=
  let (negative, cs) := splitSign cs
  (digitGroups? Char.isDigit cs).map fun ds =>
    if negative then -(valueOf 10 ds : Int) else valueOf 10 ds

/-- The size of a floating-point number: digits with a fraction, an exponent or both. -/
def size? (cs : List Char) : Option Decimal := do
  let (front, power) := cut (fun c => c == 'e' || c == 'E') cs
  let (whole, fraction) := cut (· == '.') front
  if power.isNone && fraction.isNone then none
  else
    let whole ← wholeDigits? whole
    let fraction ← (fraction.map (digitGroups? Char.isDigit)).getD (some [])
    let power ← (power.map exponent?).getD (some 0)
    return ⟨valueOf 10 (whole ++ fraction), power - fraction.length⟩

/-- A number in the words for what is no finite number. -/
def special? (cs : List Char) : Option Float :=
  let (negative, cs) := splitSign cs
  if cs = "inf".toList then some (if negative then -1 / 0 else 1 / 0)
  else if cs = "nan".toList then some (0 / 0)
  else none

/-- A floating-point number. Digits of a positive number that is too large are refused. -/
def float? (cs : List Char) : Option Float :=
  (special? cs).or
    (let (negative, cs) := splitSign cs
     (size? cs).bind fun d =>
      let x := floatOfDecimal d
      if negative then some (-x) else if x == 1 / 0 then none else some x)

/-! ### Dates and times -/

/-- The value of just so many decimal digits. -/
def fixed? (count : Nat) (cs : List Char) : Option Nat :=
  if cs.length = count && cs.all Char.isDigit then some (valueOf 10 cs) else none

def isLeap (year : Nat) : Bool := year % 4 == 0 && (year % 100 != 0 || year % 400 == 0)

def daysIn (year month : Nat) : Nat :=
  if month = 2 then if isLeap year then 29 else 28
  else if [4, 6, 9, 11].contains month then 30
  else 31

/-- A date: year, month and day with dashes between. -/
def isDate (cs : List Char) : Bool :=
  match cs with
  | [a, b, c, d, '-', e, f, '-', g, h] =>
    match fixed? 4 [a, b, c, d], fixed? 2 [e, f], fixed? 2 [g, h] with
    | some year, some month, some day =>
      1 ≤ month && month ≤ 12 && 1 ≤ day && day ≤ daysIn year month
    | _, _, _ => false
  | _ => false

/-- Two digits below a limit. -/
def isBelow (limit : Nat) (a b : Char) : Bool := (fixed? 2 [a, b]).any (· < limit)

/-- What follows a time of day: hours, minutes and seconds with colons between, and maybe parts of a
second. -/
def afterTime? (cs : List Char) : Option (List Char) :=
  match cs with
  | a :: b :: ':' :: c :: d :: ':' :: e :: f :: cs =>
    if isBelow 24 a b && isBelow 60 c d && isBelow 61 e f then
      match cs with
      | '.' :: cs =>
        if (cs.head?).any Char.isDigit then some (cs.dropWhile Char.isDigit) else none
      | cs => some cs
    else none
  | _ => none

def isTime (cs : List Char) : Bool := afterTime? cs = some []

/-- The distance to universal time, or nothing. -/
def isOffset (cs : List Char) : Bool :=
  match cs with
  | [] | ['Z'] | ['z'] => true
  | [sign, a, b, ':', c, d] => (sign == '+' || sign == '-') && isBelow 24 a b && isBelow 60 c d
  | _ => false

/-- A time of day, with or without the distance to universal time. -/
def isOffsetTime (cs : List Char) : Bool := (afterTime? cs).any isOffset

/-- A date, a time of day, or both with the letter between. -/
def isMoment (cs : List Char) : Bool :=
  isDate cs || isTime cs ||
    (isDate (cs.take 10) && (cs[10]? == some 'T' || cs[10]? == some 't') && isOffsetTime (cs.drop 11))

/-! ### Together -/

/-- The value of a run of characters. -/
def scalar? (cs : List Char) : Option Value :=
  if cs = "true".toList then some (.boolean true)
  else if cs = "false".toList then some (.boolean false)
  else if isMoment cs then some .moment
  else ((integer? cs).map Value.integer).or ((float? cs).map Value.float)

/-- A character of such a run. -/
def isScalarChar (c : Char) : Bool := c.isAlphanum || ['+', '-', '_', '.', ':'].contains c

/-- A value that is no text and has no brackets. A date may have a time of day after a blank. -/
def readScalarValue (cs : List Char) : Option (Value × List Char) :=
  let run := cs.takeWhile isScalarChar
  let rest := cs.dropWhile isScalarChar
  match rest with
  | ' ' :: more =>
    if isDate run && isOffsetTime (more.takeWhile isScalarChar) then
      some (.moment, more.dropWhile isScalarChar)
    else (scalar? run).map fun v => (v, rest)
  | _ => (scalar? run).map fun v => (v, rest)

end Testsmith.Toml
