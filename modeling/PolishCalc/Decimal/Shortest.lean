import PolishCalc.Decimal.Number

/-!
# Shortest digits

Every magnitude is surrounded by an interval of reals that round to it, and any decimal in the
interval reads back as the magnitude. The shortest digits are found on the coarsest decimal grid
`10 ^ k` that has a point in the interval; of two such points on that grid the nearer one is taken,
and the upper one when both are equally near. On the coarsest grid the last digit is not zero.
-/

namespace PolishCalc.Decimal

/-- The decimal `digits · 10 ^ exponent`. -/
structure Numeral where
  digits : Nat
  exponent : Int
  deriving DecidableEq, Repr

/-- The reals that round to a magnitude, in quarters of its unit `2 ^ exponent`, and whether the two
ends belong to them. -/
structure Interval where
  low : Nat
  middle : Nat
  high : Nat
  closed : Bool
  deriving DecidableEq, Repr

namespace Magnitude

/-- Half a unit on both sides; below a power of two the units are half as large, unless the numbers
below it are subnormal. A number half-way between two magnitudes rounds to the even one. -/
def interval (v : Magnitude) : Interval where
  low := 4 * v.mantissa -
    if v.mantissa = twoTo fractionBits ∧ minExponent < v.exponent then 1 else 2
  middle := 4 * v.mantissa
  high := 4 * v.mantissa + 2
  closed := v.mantissa % 2 == 0

end Magnitude

/-- A quarter of the unit of a magnitude is `numerator / denominator` steps of the grid `10 ^ k`. -/
structure Scale where
  numerator : Nat
  denominator : Nat

/-- The scale of a magnitude with the given exponent on the grid `10 ^ k`. -/
def Scale.on (exponent k : Int) : Scale where
  numerator := twoTo (exponent - 2).toNat * tenTo (-k).toNat
  denominator := twoTo (2 - exponent).toNat * tenTo k.toNat

namespace Interval

/-- Whether the point `n` of a grid lies in the interval. -/
def contains (r : Interval) (scale : Scale) (n : Nat) : Bool :=
  let point := n * scale.denominator
  let low := r.low * scale.numerator
  let high := r.high * scale.numerator
  if r.closed then low ≤ point && point ≤ high else low < point && point < high

/-- The point of a grid that lies in the interval and is nearest to its middle, the upper one on a
tie. Only the two points around the middle can be it. -/
def nearestPoint? (r : Interval) (scale : Scale) : Option Nat :=
  let middle := r.middle * scale.numerator
  let below := middle / scale.denominator
  let above := below + 1
  match r.contains scale below, r.contains scale above with
  | false, false => none
  | true, false => some below
  | false, true => some above
  | true, true =>
    let down := middle - below * scale.denominator
    let up := above * scale.denominator - middle
    if down < up then some below else some above

end Interval

/-- Tries the grids `10 ^ k`, `10 ^ (k - 1)`, … and takes the first one with a point in the
interval; `0` steps are left on the finest grid, which holds the magnitude itself. -/
def searchGrids (r : Interval) (exponent : Int) : (steps : Nat) → (k : Int) → Numeral
  | 0, k => ⟨r.middle * (Scale.on exponent k).numerator / (Scale.on exponent k).denominator, k⟩
  | steps + 1, k =>
    match r.nearestPoint? (Scale.on exponent k) with
    | some n => ⟨n, k⟩
    | none => searchGrids r exponent steps (k - 1)

namespace Magnitude

/-- The number of digits of the integer part; `10` to this power is above the magnitude. -/
def integerDigits (v : Magnitude) : Nat :=
  (Nat.toDigits 10 (v.numerator / v.denominator)).length

/-- The shortest decimal that reads back as a positive magnitude. A magnitude with a negative
exponent lies on the grid of that exponent, so the search ends there at the latest. -/
def shortest (v : Magnitude) : Numeral :=
  let start := v.integerDigits
  searchGrids v.interval v.exponent (start + (-v.exponent).toNat) start

end Magnitude

end PolishCalc.Decimal
