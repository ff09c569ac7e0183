import PolishCalc.Decimal.Power

/-!
# Binary64 numbers as exact values

A binary64 number is a NaN, an infinity, or a sign with an exact magnitude
`mantissa · 2 ^ exponent`. `Number.ofBits` reads the 64 bits: a sign, eleven bits of exponent and 52
bits of fraction.
-/

namespace PolishCalc.Decimal

/-- An exact magnitude `mantissa · 2 ^ exponent`. -/
structure Magnitude where
  mantissa : Nat
  exponent : Int
  deriving DecidableEq, Repr

/-- What the bits of a binary64 number say. -/
inductive Number where
  | nan
  | infinite (negative : Bool)
  | finite (negative : Bool) (magnitude : Magnitude)
  deriving DecidableEq, Repr

namespace Magnitude

/-- The number of bits after the leading one of a normal number. -/
def fractionBits : Nat := 52

/-- The number of bits of a biased exponent. -/
def exponentBits : Nat := 11

/-- The smallest exponent of a magnitude; all subnormal numbers have it. -/
def minExponent : Int := -1074

/-- The magnitude that is stored as a biased exponent and a fraction. -/
def ofFields (biased fraction : Nat) : Magnitude :=
  if biased = 0 then
    ⟨fraction, minExponent⟩
  else
    ⟨twoTo fractionBits + fraction, minExponent + (biased - 1 : Nat)⟩

/-- The magnitude is `numerator / denominator` of these two natural numbers. -/
def numerator (v : Magnitude) : Nat :=
  v.mantissa * twoTo v.exponent.toNat

/-- The denominator is a power of two. -/
def denominator (v : Magnitude) : Nat :=
  twoTo (-v.exponent).toNat

theorem denominator_pos (v : Magnitude) : 0 < v.denominator :=
  twoTo_pos _

end Magnitude

namespace Number

/-- Reads the 64 bits of a number. -/
def ofBits (bits : Nat) : Number :=
  let fraction := bits % twoTo Magnitude.fractionBits
  let upper := bits / twoTo Magnitude.fractionBits
  let biased := upper % twoTo Magnitude.exponentBits
  let negative := upper / twoTo Magnitude.exponentBits % 2 == 1
  -- the largest biased exponent is kept for values without a magnitude
  if biased + 1 = twoTo Magnitude.exponentBits then
    if fraction = 0 then .infinite negative else .nan
  else
    .finite negative (Magnitude.ofFields biased fraction)

/-- The exact value of a binary64 number. -/
def ofFloat (value : Float) : Number :=
  ofBits value.toBits.toNat

end Number

end PolishCalc.Decimal
