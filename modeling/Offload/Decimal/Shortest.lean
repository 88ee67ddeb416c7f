import Offload.Decimal.Binary

/-!
The fewest decimal digits that read back as a given binary floating-point number. Of the decimals
with that many digits which read back, the nearest is taken, and of two equally near ones the larger.
-/
namespace Offload.Decimal

/-- The number `digits · 10 ^ exponent`. -/
structure Scientific where
  digits : Nat
  exponent : Int
  deriving Repr, DecidableEq

/-- A fraction of natural numbers and the ends of the interval of numbers that round to it, all over
one denominator. -/
structure Interval where
  low : Nat
  value : Nat
  high : Nat
  denominator : Nat
  closed : Bool

/-- The interval around `mantissa · 2 ^ exponent`: half way to both neighbours. Below a power of two
the neighbour is only half as far, unless it is the smallest. -/
def BinaryFormat.interval (format : BinaryFormat) (mantissa : Nat) (exponent : Int) : Interval :=
  let half := mantissa = 1 <<< format.fractionBits ∧ format.leastExponent < exponent
  let below := if half then 1 else 2
  let scale := 1 <<< (exponent - 2).toNat
  ⟨(4 * mantissa - below) * scale, 4 * mantissa * scale, (4 * mantissa + 2) * scale,
    1 <<< (2 - exponent).toNat, mantissa % 2 = 0⟩

namespace Interval

/-- Whether `digits · 10 ^ exponent` reads back as the value. -/
def holds (i : Interval) (digits : Nat) (exponent : Int) : Bool :=
  let number := digits * Nat.pow 10 exponent.toNat * i.denominator
  let unit := Nat.pow 10 (-exponent).toNat
  if i.closed then i.low * unit ≤ number && number ≤ i.high * unit
  else i.low * unit < number && number < i.high * unit

/-- The largest multiple of `10 ^ exponent` that is not above the value, as a count. -/
def floorAt (i : Interval) (exponent : Int) : Nat :=
  i.value * Nat.pow 10 (-exponent).toNat / (i.denominator * Nat.pow 10 exponent.toNat)

/-- Whether the value is nearer to `digits` than to `digits + 1`, both times `10 ^ exponent`. -/
def nearerBelow (i : Interval) (digits : Nat) (exponent : Int) : Bool :=
  2 * i.value * Nat.pow 10 (-exponent).toNat < (2 * digits + 1) * Nat.pow 10 exponent.toNat * i.denominator

private def negativeMagnitude (i : Interval) : Nat → Nat → Nat
  | 0, places => places
  | fuel + 1, places =>
    if i.denominator ≤ i.value * Nat.pow 10 places then places
    else negativeMagnitude i fuel (places + 1)

/-- The power of ten that the value reaches: `10 ^ magnitude ≤ value < 10 ^ (magnitude + 1)`. -/
def magnitude (i : Interval) : Int :=
  if i.denominator ≤ i.value then
    ((Nat.toDigits 10 (i.value / i.denominator)).length - 1 : Nat)
  else -(negativeMagnitude i (Nat.toDigits 10 i.denominator).length 1 : Nat)

/-- The decimal that reads back among those with a last place of `10 ^ exponent`. -/
def atPlace? (i : Interval) (exponent : Int) : Option Scientific :=
  let below := i.floorAt exponent
  match i.holds below exponent, i.holds (below + 1) exponent with
  | true, true => some ⟨if i.nearerBelow below exponent then below else below + 1, exponent⟩
  | true, false => some ⟨below, exponent⟩
  | false, true => some ⟨below + 1, exponent⟩
  | false, false => none

end Interval

private def stripZeros : Nat → Scientific → Scientific
  | 0, s => s
  | fuel + 1, s =>
    if s.digits ≠ 0 ∧ s.digits % 10 = 0 then stripZeros fuel ⟨s.digits / 10, s.exponent + 1⟩ else s

/-- The same number without trailing zeros in its digits. -/
def Scientific.normalize (s : Scientific) : Scientific :=
  stripZeros (Nat.toDigits 10 s.digits).length s

/-- The shortest decimal of a positive number; seventeen digits are always enough. -/
def BinaryFormat.shortest (format : BinaryFormat) (mantissa : Nat) (exponent : Int) : Scientific :=
  let i := format.interval mantissa exponent
  let top := i.magnitude
  let found := (List.range 17).findSome? fun (extra : Nat) => i.atPlace? (top - extra)
  (found.getD ⟨i.floorAt (top - 16), top - 16⟩).normalize

end Offload.Decimal
