/-
# Names in ASCII

A label of a host name that goes beyond ASCII is sent as its ASCII characters, followed by numbers
that say which other characters stand where. The numbers are written in base 36 with a variable
length, so tuned that runs of characters close to one another are short.

Key definitions: `Punycode.encode`, `Punycode.decode?`.
-/

namespace Testsmith.Url.Punycode

def base : Nat := 36

def leastDigit : Nat := 1

def greatestDigit : Nat := 26

def skew : Nat := 38

def damp : Nat := 700

def firstBias : Nat := 72

/-- The first character beyond ASCII. -/
def firstCode : Nat := 128

/-- No number is larger. -/
def maxNumber : Nat := UInt32.size - 1

/-- Brings a number below the bound of the tuning, and counts the digits it takes. -/
def shrink : (bound : Nat) → (steps delta : Nat) → Nat × Nat
  | 0, steps, delta => (steps, delta)
  | bound + 1, steps, delta =>
    if (base - leastDigit) * greatestDigit / 2 < delta then
      shrink bound (steps + base) (delta / (base - leastDigit))
    else (steps, delta)

/-- The bias after a number that was written for a text of so many characters. -/
def adapt (delta count : Nat) (first : Bool) : Nat :=
  let delta := if first then delta / damp else delta / 2
  let (steps, delta) := shrink 32 0 (delta + delta / count)
  steps + (base - leastDigit + 1) * delta / (delta + skew)

/-- The digit below which a number ends at a place. -/
def threshold (place bias : Nat) : Nat :=
  if place ≤ bias then leastDigit
  else if bias + greatestDigit ≤ place then greatestDigit
  else place - bias

/-! ### Reading -/

def digitValue? (c : Char) : Option Nat :=
  if 'a' ≤ c && c ≤ 'z' then some (c.toNat - 'a'.toNat)
  else if 'A' ≤ c && c ≤ 'Z' then some (c.toNat - 'A'.toNat)
  else if c.isDigit then some (c.toNat - '0'.toNat + 26)
  else none

/-- Reads one number. -/
def readNumber? (bias : Nat) : (place weight sum : Nat) → List Char → Option (Nat × List Char)
  | _, _, _, [] => none
  | place, weight, sum, c :: cs =>
    match digitValue? c with
    | none => none
    | some d =>
      let sum := sum + d * weight
      let t := threshold place bias
      if maxNumber < sum then none
      else if d < t then some (sum, cs)
      else readNumber? bias (place + base) (weight * (base - t)) sum cs

/-- The character of a code that is beyond ASCII and is one. -/
def charOf? (code : Nat) : Option Char := if code.isValidChar then some (Char.ofNat code) else none

/-- Puts in the characters that the numbers state. -/
def readFrom? : (bound : Nat) → (code index bias : Nat) → (first : Bool) → (done : List Char) →
    List Char → Option (List Char)
  | _, _, _, _, _, done, [] => some done
  | 0, _, _, _, _, _, _ => none
  | bound + 1, code, index, bias, first, done, cs => do
    let (sum, rest) ← readNumber? bias base 1 index cs
    let count := done.length + 1
    let code := code + sum / count
    let c ← charOf? code
    let place := sum % count
    readFrom? bound code (place + 1) (adapt (sum - index) count first) false
      (done.take place ++ c :: done.drop place) rest

/-- The label that a text in ASCII stands for. -/
def decode? (cs : List Char) : Option (List Char) :=
  let numbers := (cs.reverse.takeWhile (· ≠ '-')).reverse
  let front := (cs.take (cs.length - numbers.length)).dropLast
  if front.isEmpty then readFrom? cs.length firstCode 0 firstBias true [] cs
  else readFrom? cs.length firstCode 0 firstBias true front numbers

/-! ### Writing -/

def digit (n : Nat) : Char :=
  if n < 26 then Char.ofNat ('a'.toNat + n) else Char.ofNat ('0'.toNat + (n - 26))

/-- Writes one number. -/
def writeNumber (bias : Nat) : (bound place n : Nat) → List Char
  | 0, _, _ => []
  | bound + 1, place, n =>
    let t := threshold place bias
    if n < t then [digit n]
    else
      digit (t + (n - t) % (base - t)) ::
        writeNumber bias bound (place + base) ((n - t) / (base - t))

/-- Where the writing stands: how many characters have been written, the number that is due, and the
bias. -/
structure Writing where
  count : Nat
  delta : Nat
  bias : Nat

/-- Writes the places of one character. -/
def writePlaces (basic code : Nat) : Writing → List Char → List Char × Writing
  | w, [] => ([], w)
  | w, c :: cs =>
    if c.toNat < code then writePlaces basic code { w with delta := w.delta + 1 } cs
    else if c.toNat = code then
      let number := writeNumber w.bias 16 base w.delta
      let bias := adapt w.delta (w.count + 1) (w.count = basic)
      let (rest, w) := writePlaces basic code ⟨w.count + 1, 0, bias⟩ cs
      (number ++ rest, w)
    else writePlaces basic code w cs

/-- Writes all characters from a code on, in the order of their codes. -/
def writeFrom (basic : Nat) (label : List Char) : (bound code : Nat) → Writing → List Char
  | 0, _, _ => []
  | bound + 1, code, w =>
    match ((label.map Char.toNat).filter (code ≤ ·)).min? with
    | none => []
    | some next =>
      let w := { w with delta := w.delta + (next - code) * (w.count + 1) }
      let (written, w) := writePlaces basic next w label
      written ++ writeFrom basic label bound (next + 1) { w with delta := w.delta + 1 }

/-- A label in ASCII. -/
def encode (label : List Char) : List Char :=
  let basic := label.filter (·.val < 128)
  let front := if basic.isEmpty then [] else basic ++ ['-']
  front ++ writeFrom basic.length label label.length firstCode ⟨basic.length, 0, firstBias⟩

end Testsmith.Url.Punycode
