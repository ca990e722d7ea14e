/-
# Text in bytes

What bytes show that are meant as UTF-8 and may be none: each longest piece that could have begun a
character, and each other byte that cannot, is replaced by one mark.

Key definitions: `Text.decodeLossy`.
-/

namespace Testsmith.Text

/-- The mark for what is no character. -/
def replacement : Char := '\ufffd'

/-- The bytes that may come second in a character after the given first byte, as a range, and how many
more come after them. -/
def secondBytes? (first : Nat) : Option (Nat × Nat × Nat) :=
  if 0xc2 ≤ first ∧ first ≤ 0xdf then some (0x80, 0xbf, 0)
  else if first = 0xe0 then some (0xa0, 0xbf, 1)
  else if first = 0xed then some (0x80, 0x9f, 1)
  else if 0xe1 ≤ first ∧ first ≤ 0xef then some (0x80, 0xbf, 1)
  else if first = 0xf0 then some (0x90, 0xbf, 2)
  else if 0xf1 ≤ first ∧ first ≤ 0xf3 then some (0x80, 0xbf, 2)
  else if first = 0xf4 then some (0x80, 0x8f, 2)
  else none

/-- Reads `count` more bytes of a character whose bits so far are `high`. -/
def continued : (count : Nat) → (high : Nat) → List UInt8 → Char × List UInt8
  | 0, high, bs => (Char.ofNat high, bs)
  | _ + 1, _, [] => (replacement, [])
  | count + 1, high, b :: bs =>
    if 0x80 ≤ b ∧ b < 0xc0 then continued count (64 * high + (b.toNat - 0x80)) bs
    else (replacement, b :: bs)

/-- The character that a first byte begins, and the bytes after it. -/
def decodeFirst (b : UInt8) (bs : List UInt8) : Char × List UInt8 :=
  if b < 0x80 then (Char.ofNat b.toNat, bs)
  else
    match secondBytes? b.toNat, bs with
    | none, _ | some _, [] => (replacement, bs)
    | some (low, high, more), c :: cs =>
      if low ≤ c.toNat ∧ c.toNat ≤ high then
        let bits := b.toNat % (if more = 0 then 32 else if more = 1 then 16 else 8)
        continued more (64 * bits + (c.toNat - 0x80)) cs
      else (replacement, bs)

/-- The characters of bytes, of which there are at most `bound`. -/
def decodeList : (bound : Nat) → List UInt8 → List Char
  | 0, _ | _, [] => []
  | bound + 1, b :: bs =>
    let (c, bs) := decodeFirst b bs
    c :: decodeList bound bs

/-- The text that bytes show. -/
def decodeLossy (bytes : ByteArray) : String :=
  match String.fromUTF8? bytes with
  | some s => s
  | none => String.ofList (decodeList bytes.size bytes.toList)

end Testsmith.Text
