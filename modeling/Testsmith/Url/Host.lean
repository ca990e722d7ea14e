/-
# Hosts

A host is a name, a number of 32 bits in one of its many spellings, or a number of 128 bits in
brackets. The case of names does not matter.

Key definitions: `Url.Host`, `Url.Host.parse?`, `Url.Host.text`.
-/
import Testsmith.Url.Escape
import Testsmith.Url.Name

namespace Testsmith.Url

open Text (hexValue? hexDigit)

inductive Host
  | name (s : String)
  | short (address : Nat)
  | long (groups : List Nat)
  deriving DecidableEq, Repr

/-- The pieces between separators. -/
def pieces (separator : Char) (cs : List Char) : List (List Char) :=
  cs.splitOn separator

/-- A number of at least one digit in a base. -/
def numberIn? (base : Nat) (cs : List Char) : Option Nat :=
  if cs.isEmpty then none
  else cs.foldlM (fun n c => do
    let d ← hexValue? c
    if d < base then some (base * n + d) else none) 0

/-- A part of a number of 32 bits: hexadecimal after `0x`, octal after `0`, else decimal. -/
def partOfShort? (cs : List Char) : Option Nat :=
  match cs with
  | '0' :: 'x' :: ds | '0' :: 'X' :: ds => if ds.isEmpty then some 0 else numberIn? 16 ds
  | ['0'] => some 0
  | '0' :: ds => numberIn? 8 ds
  | ds => numberIn? 10 ds

/-- The last piece of a host decides whether it is a number. A point at its end does not count. -/
def shortPieces (cs : List Char) : List (List Char) :=
  let ps := pieces '.' cs
  if 1 < ps.length && ps.getLast? == some [] then ps.dropLast else ps

/-- The host is meant as a number. -/
def looksShort (cs : List Char) : Bool :=
  match (shortPieces cs).getLast? with
  | some p => (!p.isEmpty && p.all Char.isDigit) || (partOfShort? p).isSome
  | none => false

/-- The value of the parts: each but the last is one byte, and the last one fills what is left. -/
def shortOfParts? (bytesLeft : Nat) : List Nat → Option Nat
  | [] => none
  | [n] => if n < Nat.pow 256 bytesLeft then some n else none
  | n :: ns => do
    if 255 < n ∨ bytesLeft ≤ 1 then none
    else return n * Nat.pow 256 (bytesLeft - 1) + (← shortOfParts? (bytesLeft - 1) ns)

def parseShort? (cs : List Char) : Option Nat := do
  shortOfParts? 4 (← (shortPieces cs).mapM partOfShort?)

def shortText (n : Nat) : String :=
  ".".intercalate ([16777216, 65536, 256, 1].map fun unit => toString (n / unit % 256))

/-! ### Numbers of 128 bits -/

/-- Four decimal numbers without leading zeros, as two groups. -/
def groupsOfShort? (cs : List Char) : Option (List Nat) := do
  let ps := pieces '.' cs
  let ns ← ps.mapM fun p =>
    if 1 < p.length && p.head? == some '0' then none
    else (numberIn? 10 p).filter (· < 256)
  match ns with
  | [a, b, c, d] => some [256 * a + b, 256 * c + d]
  | _ => none

/-- The groups between colons. The last two may be written as a number of 32 bits. -/
def groups? : List (List Char) → Option (List Nat)
  | [] => some []
  | [p] =>
    if p.contains '.' then groupsOfShort? p
    else if 4 < p.length then none else (numberIn? 16 p).map ([·])
  | p :: ps => do
    if 4 < p.length then none
    else return (← numberIn? 16 p) :: (← groups? ps)

/-- The text before and after the first pair of colons. -/
def splitGap? : List Char → Option (List Char × List Char)
  | [] => none
  | ':' :: ':' :: cs => some ([], cs)
  | c :: cs => (splitGap? cs).map fun (front, back) => (c :: front, back)

def groupsIn? (cs : List Char) : Option (List Nat) :=
  if cs.isEmpty then some [] else groups? (pieces ':' cs)

def parseLong? (cs : List Char) : Option (List Nat) := do
  match splitGap? cs with
  | none =>
    let gs ← groupsIn? cs
    if gs.length = 8 then some gs else none
  | some (front, back) =>
    if front.contains '.' then none
    else
      let before ← groupsIn? front
      let after ← groupsIn? back
      if before.length + after.length < 8 then
        some (before ++ List.replicate (8 - before.length - after.length) 0 ++ after)
      else none

/-- A number without leading zeros. -/
def hexText (n : Nat) : String := String.ofList (Nat.toDigits 16 n)

/-- The place and the length of the first longest run of zeros. -/
def longestGap (gs : List Nat) : Nat × Nat :=
  (List.range gs.length).foldl (fun best i =>
    let n := ((gs.drop i).takeWhile (· = 0)).length
    if best.2 < n then (i, n) else best) (0, 0)

/-- The groups with the longest run of zeros left out, unless that is a single one. -/
def longText (gs : List Nat) : String :=
  let part (l : List Nat) := ":".intercalate (l.map hexText)
  let (i, n) := longestGap gs
  if n < 2 then part gs else part (gs.take i) ++ "::" ++ part (gs.drop (i + n))

/-! ### Hosts -/

/-- No host holds the character. -/
def forbiddenInHost (c : Char) : Bool := "\x00\t\n\r #/:<>?@[\\]^|".toList.contains c

/-- No name on the web holds the character. -/
def forbiddenInName (c : Char) : Bool :=
  forbiddenInHost c || c.toNat < 0x20 || c = '%' || 0x7e < c.toNat

def Host.text : Host → String
  | name s => s
  | short n => shortText n
  | long gs => "[" ++ longText gs ++ "]"

/-- A number in brackets. -/
def bracketed? (cs : List Char) : Option (Option Host) :=
  match cs with
  | '[' :: cs =>
    if cs.getLast? = some ']' then some ((parseLong? cs.dropLast).map .long) else some none
  | _ => none

/-- The host of an address of the web. -/
def Host.parse? (cs : List Char) : Option Host :=
  match bracketed? cs with
  | some host => host
  | none =>
    match nameText? (unescape cs) with
    | none => none
    | some text =>
      if text.isEmpty || text.any forbiddenInName then none
      else if looksShort text then (parseShort? text).map .short
      else some (.name (String.ofList text))

/-- The host of another address. -/
def Host.parseOther? (cs : List Char) : Option Host :=
  match bracketed? cs with
  | some host => host
  | none =>
    if cs.any forbiddenInHost then none
    else some (.name (String.ofList (escape .opaquePath cs)))

end Testsmith.Url
