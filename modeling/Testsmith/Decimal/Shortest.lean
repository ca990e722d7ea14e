/-
# Shortest decimals

A floating-point number stands for all reals that round to it. Among these the decimal with the
fewest digits is looked for: the coarsest grid of multiples of a power of ten that has a point there,
and on it the point nearest to the number, the even one of two equally near. All comparisons are
between natural numbers.

Key definitions: `Decimal`, `Binary`, `Binary.readsBack`, `Binary.shortest`, `FloatParts`,
`FloatParts.of`, `floatOfDecimal`.
-/

namespace Testsmith

/-- The number `digits * 10 ^ exponent`. -/
structure Decimal where
  digits : Nat
  exponent : Int
  deriving DecidableEq, Repr

/-- The number `mantissa * 2 ^ exponent`. -/
structure Binary where
  mantissa : Nat
  exponent : Int
  /-- The number below is half as far away as the one above. -/
  closeBelow : Bool
  deriving DecidableEq, Repr

namespace Binary

/-- The size of the finite number with the given bits. -/
def ofBits (bits : Nat) : Binary :=
  let fraction : Nat := bits % (1 <<< 52)
  let scale : Nat := (bits >>> 52) % (1 <<< 11)
  if scale = 0 then ⟨fraction, -1074, false⟩
  else ⟨(1 <<< 52) + fraction, (scale : Int) - 1075, fraction = 0 && 1 < scale⟩

/-- A quarter of the last place of the number, counted in units of `unit e`. -/
def quarter (b : Binary) (e : Int) : Nat := Nat.pow 10 (-e).toNat <<< (b.exponent - 2).toNat

/-- The distance of the multiples of `10 ^ e`, in the units of `quarter`. -/
def grid (b : Binary) (e : Int) : Nat := Nat.pow 10 e.toNat <<< (2 - b.exponent).toNat

/-- The number, in the units of `quarter`. -/
def scaled (b : Binary) (e : Int) : Nat := 4 * b.mantissa * b.quarter e

/-- The decimal rounds to the number: it is no further away than half of the way to the next number
on its side, and the ends count where the last bit of the number is even. -/
def readsBack (b : Binary) (d : Decimal) : Bool :=
  let low := (4 * b.mantissa - if b.closeBelow then 1 else 2) * b.quarter d.exponent
  let high := (4 * b.mantissa + 2) * b.quarter d.exponent
  let point := d.digits * b.grid d.exponent
  if b.mantissa % 2 = 0 then low ≤ point && point ≤ high else low < point && point < high

/-- The point of the grid of `10 ^ e` that rounds to the number and is nearest to it. -/
def onGrid? (b : Binary) (e : Int) : Option Decimal :=
  let below := b.scaled e / b.grid e
  match b.readsBack ⟨below, e⟩, b.readsBack ⟨below + 1, e⟩ with
  | false, false => none
  | true, false => some ⟨below, e⟩
  | false, true => some ⟨below + 1, e⟩
  | true, true =>
    match compare (2 * b.scaled e) ((2 * below + 1) * b.grid e) with
    | .lt => some ⟨below, e⟩
    | .gt => some ⟨below + 1, e⟩
    | .eq => some ⟨below + below % 2, e⟩

/-- The number, exactly. -/
def exact (b : Binary) : Decimal :=
  if 0 ≤ b.exponent then ⟨b.mantissa <<< b.exponent.toNat, 0⟩
  else ⟨b.mantissa * Nat.pow 5 (-b.exponent).toNat, b.exponent⟩

/-- The first of the grids `10 ^ e`, `10 ^ (e - 1)`, ... with a point that rounds to the number. -/
def search (b : Binary) : (bound : Nat) → (e : Int) → Decimal
  | 0, _ => b.exact
  | bound + 1, e => (b.onGrid? e).getD (search b bound (e - 1))

/-- An exponent whose power of ten is above the number. -/
def top (b : Binary) : Int := (b.mantissa.log2 + 1 + b.exponent) * 30103 / 100000 + 2

/-- The decimal with the fewest digits that rounds to the number. -/
def shortest (b : Binary) : Decimal := if b.mantissa = 0 then ⟨0, 0⟩ else b.search 24 b.top

end Binary

/-- What a floating-point number is. -/
inductive FloatParts
  | nan
  | infinite (negative : Bool)
  | finite (negative : Bool) (size : Decimal)
  deriving DecidableEq, Repr

/-- The parts of a number, its size as the shortest decimal. -/
def FloatParts.of (x : Float) : FloatParts :=
  let bits := x.toBits.toNat
  let negative := 1 <<< 63 ≤ bits
  if (bits >>> 52) % (1 <<< 11) = 2047 then
    if bits % (1 <<< 52) = 0 then infinite negative else nan
  else finite negative (Binary.ofBits bits).shortest

/-- The floating-point number nearest to a decimal. Beyond the largest and the smallest number the
digits do not matter. -/
def floatOfDecimal (d : Decimal) : Float :=
  let magnitude : Int := (Nat.log2 d.digits : Int) * 30103 / 100000 + d.exponent
  if d.digits = 0 || magnitude < -400 then 0
  else if 400 < magnitude then 1 / 0
  else Float.ofScientific d.digits (d.exponent < 0) d.exponent.natAbs

end Testsmith
