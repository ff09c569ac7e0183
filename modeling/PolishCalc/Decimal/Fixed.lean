import PolishCalc.Decimal.Number

/-!
# Fixed places

A magnitude is rounded to a multiple of `10 ^ -places` from its exact value; a value half-way
between two multiples goes to the even one. `divEven` is that rounding of a quotient.
-/

namespace PolishCalc.Decimal

/-- The natural number nearest to `n / d`; of two equally near ones the even one. -/
def divEven (n d : Nat) : Nat :=
  let q := n / d
  let twice := 2 * (n % d)
  if twice < d then q
  else if d < twice then q + 1
  else if q % 2 = 0 then q else q + 1

/-- The magnitude as a number of units of `10 ^ -places`. -/
def Magnitude.fixed (v : Magnitude) (places : Nat) : Nat :=
  divEven (v.numerator * tenTo places) v.denominator

end PolishCalc.Decimal
