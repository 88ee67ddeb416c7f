/-!
Binary floating-point words: what number a word denotes. A finite word denotes `m · 2 ^ q` up to its
sign.
-/
namespace Offload.Decimal

/-- The layout of a word: a sign bit, then the exponent, then the fraction. -/
structure BinaryFormat where
  exponentBits : Nat
  fractionBits : Nat

def binary32 : BinaryFormat := ⟨8, 23⟩

def binary64 : BinaryFormat := ⟨11, 52⟩

inductive BinaryValue where
  | nan
  | infinite (negative : Bool)
  | finite (negative : Bool) (mantissa : Nat) (exponent : Int)
  deriving Repr, DecidableEq

namespace BinaryFormat

/-- The exponent of the last place of the smallest numbers. -/
def leastExponent (format : BinaryFormat) : Int :=
  2 - (1 <<< (format.exponentBits - 1) : Nat) - format.fractionBits

def decode (format : BinaryFormat) (bits : Nat) : BinaryValue :=
  let fraction := bits % (1 <<< format.fractionBits)
  let exponent := bits / (1 <<< format.fractionBits) % (1 <<< format.exponentBits)
  let negative := bits / (1 <<< (format.fractionBits + format.exponentBits)) % 2 = 1
  if exponent = (1 <<< format.exponentBits) - 1 then
    if fraction = 0 then .infinite negative else .nan
  else if exponent = 0 then .finite negative fraction format.leastExponent
  else .finite negative ((1 <<< format.fractionBits) + fraction)
      (format.leastExponent + (exponent - 1 : Nat))

/-- Twice the number of a word, rounded to a word of the same layout: not a number becomes a quiet
one, and what is too large becomes infinite. -/
def double (format : BinaryFormat) (bits : Nat) : Nat :=
  let fractionSize := 1 <<< format.fractionBits
  let fraction := bits % fractionSize
  let exponent := bits / fractionSize % (1 <<< format.exponentBits)
  let sign := bits / (1 <<< (format.fractionBits + format.exponentBits)) % 2 *
    (1 <<< (format.fractionBits + format.exponentBits))
  let top := (1 <<< format.exponentBits) - 1
  if exponent = top then
    if fraction = 0 then bits
    else sign + top * fractionSize + (fraction ||| (1 <<< (format.fractionBits - 1)))
  else if exponent = 0 then sign + 2 * fraction
  else if exponent + 1 = top then sign + top * fractionSize
  else sign + (exponent + 1) * fractionSize + fraction

end BinaryFormat
end Offload.Decimal
