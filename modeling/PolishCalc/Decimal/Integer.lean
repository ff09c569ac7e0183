import PolishCalc.Decimal.Power

/-!
# Integers in texts

Signed integers of 64 bits, as digits in some base with an optional sign before them.
-/

namespace PolishCalc.Decimal

/-- The value of digits in a base up to sixteen. -/
def ofDigits (base : Nat) (digits : List Char) : Nat :=
  digits.foldl (fun n c =>
    base * n + if c.isDigit then c.toNat - '0'.toNat else c.toLower.toNat - 'a'.toNat + 10) 0

/-- The sign of a number and the text after it. -/
def splitSign : List Char → Bool × List Char
  | '+' :: rest => (false, rest)
  | '-' :: rest => (true, rest)
  | text => (false, text)

/-- Integers of 64 bits are below this bound, and not below its negative. -/
def integerBound : Nat := twoTo 63

/-- An integer that fits into 64 bits with a sign. -/
def bounded? (n : Int) : Option Int :=
  if -(integerBound : Int) ≤ n ∧ n < integerBound then some n else none

/-- The value of an optional sign and decimal digits, if it fits into 64 bits. -/
def readInteger? (text : List Char) : Option Int :=
  let (negative, digits) := splitSign text
  if digits.isEmpty || !digits.all Char.isDigit then
    none
  else
    let n : Int := ofDigits 10 digits
    bounded? (if negative then -n else n)

end PolishCalc.Decimal
