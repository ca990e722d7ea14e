/-
# Hexadecimal digits

Key definitions: `Text.hexValue?`, `Text.hexDigit`, `Text.upperHexDigit`, `Text.hexPairs`,
`Text.bytesOfHex?`.
-/

namespace Testsmith.Text

/-- The value of a digit, in either case. -/
def hexValue? (c : Char) : Option Nat :=
  if c.isDigit then some (c.toNat - '0'.toNat)
  else if 'a' ≤ c && c ≤ 'f' then some (c.toNat - 'a'.toNat + 10)
  else if 'A' ≤ c && c ≤ 'F' then some (c.toNat - 'A'.toNat + 10)
  else none

/-- The last digit of a number, in lower case. -/
def hexDigit (n : Nat) : Char := ("0123456789abcdef".toList[n % 16]?).getD '0'

/-- The last digit of a number, in upper case. -/
def upperHexDigit (n : Nat) : Char := ("0123456789ABCDEF".toList[n % 16]?).getD '0'

/-- Two digits for each byte. -/
def hexPairs (bytes : List UInt8) : String :=
  String.ofList (bytes.flatMap fun b => [hexDigit (b.toNat / 16), hexDigit b.toNat])

/-- The bytes that pairs of digits state. -/
def bytesOfHex? : List Char → Option (List UInt8)
  | [] => some []
  | a :: b :: cs => do
    return UInt8.ofNat (16 * (← hexValue? a) + (← hexValue? b)) :: (← bytesOfHex? cs)
  | [_] => none

end Testsmith.Text
