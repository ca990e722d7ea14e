/-
# Escaped bytes in addresses

A byte that may not stand in a part of an address is written as a percent sign and two digits.

Key definitions: `Url.Part`, `Url.Part.escapes`, `Url.escape`, `Url.unescape`.
-/
import Testsmith.Text.Hex
import Testsmith.Text.Utf8

namespace Testsmith.Url

open Text (hexValue? upperHexDigit)

/-- The parts of an address that differ in what they escape. -/
inductive Part
  /-- A path, or a host, of which nothing is known. -/
  | opaquePath
  | fragment
  | query
  /-- A query of the web. -/
  | webQuery
  | path
  deriving DecidableEq, Repr

/-- The part may not hold the character as it is. -/
def Part.escapes (p : Part) (c : Char) : Bool :=
  let n := c.toNat
  n < 0x20 || 0x7e < n ||
  match p with
  | opaquePath => false
  | fragment => " \"<>\x60".toList.contains c
  | query => " \"#<>".toList.contains c
  | webQuery => " \"#<>'".toList.contains c
  | path => " \"<>\x60#?\x7b\x7d".toList.contains c

/-- The bytes of a character, each with its percent sign. -/
def escapeChar (c : Char) : List Char :=
  (String.singleton c).toUTF8.toList.flatMap fun b =>
    ['%', upperHexDigit (b.toNat / 16), upperHexDigit b.toNat]

/-- A text as it stands in a part of an address. -/
def escape (p : Part) (cs : List Char) : List Char :=
  cs.flatMap fun c => if p.escapes c then escapeChar c else [c]

/-- The bytes of a text with its escapes resolved. A percent sign without two digits stands for
itself. -/
def unescapedBytes : List Char → List UInt8
  | [] => []
  | '%' :: a :: b :: cs =>
    match hexValue? a, hexValue? b with
    | some high, some low => UInt8.ofNat (16 * high + low) :: unescapedBytes cs
    | _, _ => 37 :: unescapedBytes (a :: b :: cs)
  | c :: cs => (String.singleton c).toUTF8.toList ++ unescapedBytes cs

/-- The text with its escapes resolved. -/
def unescape (cs : List Char) : List Char :=
  let bytes := unescapedBytes cs
  Text.decodeList bytes.length bytes

end Testsmith.Url
