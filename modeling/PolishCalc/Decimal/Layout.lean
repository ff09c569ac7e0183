import PolishCalc.Decimal.Shortest
import PolishCalc.Decimal.Fixed

/-!
# Layouts of decimals

How digits become text: with a point among them, or as a mantissa with an exponent. A `Layout`
record decides what a format leaves open. The digits themselves come from `Decimal.Shortest` and
`Decimal.Fixed`.
-/

namespace PolishCalc.Decimal

/-- The digits of a natural number. -/
def digitsOf (n : Nat) : List Char :=
  Nat.toDigits 10 n

/-- The integer `n` in units of `10 ^ -places`, with a point before the last `places` digits and at
least one digit before it. Without places there is no point. -/
def pointed (n places : Nat) : List Char :=
  let digits := digitsOf n
  let padded := List.replicate (places + 1 - digits.length) '0' ++ digits
  let whole := padded.take (padded.length - places)
  if places = 0 then whole else whole ++ '.' :: padded.drop (padded.length - places)

/-- What a format of numbers leaves open. -/
structure Layout where
  /-- The mark before an exponent. -/
  exponentMark : Char
  /-- Magnitudes from `10 ^ plainFrom` on are written without an exponent, -/
  plainFrom : Int
  /-- up to but not including `10 ^ plainBelow`. -/
  plainBelow : Int
  /-- The largest number of fixed places. -/
  maxPlaces : Nat
  nan : String
  infinity : String

/-- Whether a magnitude is at least `10 ^ k`. -/
def Magnitude.atLeastPowerOfTen (v : Magnitude) (k : Int) : Bool :=
  tenTo k.toNat * v.denominator ≤ v.numerator * tenTo (-k).toNat

namespace Numeral

/-- A decimal with a point and at least one digit after it. -/
def plain (d : Numeral) : List Char :=
  if 0 ≤ d.exponent then
    digitsOf (d.digits * tenTo d.exponent.toNat) ++ ['.', '0']
  else
    pointed d.digits (-d.exponent).toNat

/-- The digits of an integer, with a minus sign if it is negative. -/
def signedDigits (n : Int) : List Char :=
  if n < 0 then '-' :: digitsOf n.natAbs else digitsOf n.natAbs

/-- A decimal as one digit, a point, at least one digit and an exponent. -/
def scientific (mark : Char) (d : Numeral) : List Char :=
  let digits := digitsOf d.digits
  let exponent := d.exponent + (digits.length - 1 : Nat)
  let fraction := digits.drop 1
  digits.take 1 ++ '.' :: (if fraction.isEmpty then ['0'] else fraction) ++
    mark :: signedDigits exponent

end Numeral

namespace Layout

/-- The sign of a number: nothing for a positive one. -/
def sign (negative : Bool) : List Char :=
  if negative then ['-'] else []

/-- A magnitude in its shortest digits. -/
def shortest (layout : Layout) (v : Magnitude) : List Char :=
  if v.mantissa = 0 then
    ['0', '.', '0']
  else if v.atLeastPowerOfTen layout.plainFrom && !v.atLeastPowerOfTen layout.plainBelow then
    v.shortest.plain
  else
    v.shortest.scientific layout.exponentMark

/-- The text of a number, with its shortest digits or with a fixed number of places. `none` is the
answer to more places than the layout allows; numbers without digits do not mind them. -/
def text? (layout : Layout) (places : Option Nat) : Number → Option String
  | .nan => some layout.nan
  | .infinite negative => some (String.ofList (sign negative) ++ layout.infinity)
  | .finite negative v =>
    match places with
    | none => some (String.ofList (sign negative ++ layout.shortest v))
    | some places =>
      if layout.maxPlaces < places then
        none
      else
        some (String.ofList (sign negative ++ pointed (v.fixed places) places))

end Layout

end PolishCalc.Decimal
