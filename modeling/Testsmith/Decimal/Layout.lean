/-
# Texts of floating-point numbers

How the digits of a number are laid out: with or without an exponent, and what stands for numbers
that have no digits.

Key definitions: `FloatLayout`, `FloatLayout.write`, `FloatLayout.plain`, `FloatLayout.pointed`,
`FloatLayout.scientific`.
-/
import Testsmith.Decimal.Shortest

namespace Testsmith

/-- The decisions of a layout. -/
structure FloatLayout where
  /-- A whole number is written with a zero after the point. -/
  pointZero : Bool
  /-- Large and small numbers have an exponent. -/
  exponents : Bool
  nan : String
  infinity : String
  deriving DecidableEq, Repr

namespace FloatLayout

/-- As in messages: no point where there is nothing after it. -/
def plain : FloatLayout := ⟨false, false, "NaN", "inf"⟩

/-- Every number has a point and none an exponent. -/
def pointed : FloatLayout := ⟨true, false, "nan", "inf"⟩

/-- Every number has a point or an exponent. -/
def scientific : FloatLayout := ⟨true, true, "nan", "inf"⟩

def zeros (n : Nat) : String := String.ofList (List.replicate n '0')

/-- Digits without an exponent, the point after the first `point` of them. -/
def positional (l : FloatLayout) (digits : String) (point : Int) : String :=
  let n := digits.length
  if n ≤ point then
    digits ++ zeros (point - n).toNat ++ if l.pointZero then ".0" else ""
  else if 0 < point then
    String.ofList (digits.toList.take point.toNat) ++ "." ++
      String.ofList (digits.toList.drop point.toNat)
  else "0." ++ zeros (-point).toNat ++ digits

/-- Digits with one of them before the point, and an exponent. -/
def withExponent (digits : String) (point : Int) : String :=
  let rest := String.ofList (digits.toList.drop 1)
  String.ofList (digits.toList.take 1) ++ (if rest.isEmpty then "" else "." ++ rest) ++ "e" ++
    toString (point - 1)

/-- The text of a size. Its point is after the first `point` of its digits, where that is a number
of digits at all. -/
def writeSize (l : FloatLayout) (d : Decimal) : String :=
  let digits := toString d.digits
  let point : Int := digits.length + d.exponent
  if l.exponents && d.digits != 0 && !(-5 < point && point ≤ 16) then withExponent digits point
  else l.positional digits point

/-- The text of a number. -/
def write (l : FloatLayout) (x : Float) : String :=
  match FloatParts.of x with
  | .nan => l.nan
  | .infinite negative => (if negative then "-" else "") ++ l.infinity
  | .finite negative size => (if negative then "-" else "") ++ l.writeSize size

end FloatLayout

end Testsmith
