/-!
# Ranges of characters

A property of characters is given as a list of ranges of code points, both ends included.
-/

namespace PolishCalc.Text

/-- Ranges of code points; a range is its first and its last code point. -/
abbrev CharRanges := List (Nat × Nat)

/-- Whether a character lies in one of the ranges. -/
def CharRanges.contains (ranges : CharRanges) (c : Char) : Bool :=
  ranges.any fun (first, last) => first ≤ c.toNat && c.toNat ≤ last

end PolishCalc.Text
