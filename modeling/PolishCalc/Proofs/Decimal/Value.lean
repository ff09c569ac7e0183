import Mathlib.Data.Rat.Floor
import Mathlib.Tactic.FieldSimp
import Mathlib.Tactic.Linarith
import Mathlib.Tactic.NormNum
import Mathlib.Tactic.Positivity
import Mathlib.Tactic.Ring
import PolishCalc.Decimal.Layout

/-!
# Values of magnitudes and decimals

The rational numbers that magnitudes and decimals stand for.

* **powers** — a power with any integer as its exponent is the quotient of two powers of natural
  numbers, which is how the exact comparisons write it (`twoTo_div`, `tenTo_div`);
* **magnitudes** — `Magnitude.Canonical` says which magnitudes binary64 numbers have. Each has its
  number of bits (`Magnitude.bits_injective`), and their order is that of the exponents and, for
  equal exponents, that of the mantissas (`Magnitude.Canonical.compare_value`).
-/

namespace PolishCalc.Decimal

/-! ## Powers -/

theorem cast_twoTo (n : Nat) : (twoTo n : ℚ) = 2 ^ n :=
  Nat.cast_pow 2 n

theorem cast_tenTo (n : Nat) : (tenTo n : ℚ) = 10 ^ n :=
  Nat.cast_pow 10 n

theorem pow_toNat_div {base : ℚ} (nonzero : base ≠ 0) (k : Int) :
    base ^ k.toNat / base ^ (-k).toNat = base ^ k := by
  rw [← zpow_natCast, ← zpow_natCast, ← zpow_sub₀ nonzero]
  congr 1
  omega

theorem twoTo_div (k : Int) : (twoTo k.toNat : ℚ) / twoTo (-k).toNat = 2 ^ k := by
  rw [cast_twoTo, cast_twoTo, pow_toNat_div two_ne_zero]

theorem tenTo_div (k : Int) : (tenTo k.toNat : ℚ) / tenTo (-k).toNat = 10 ^ k := by
  rw [cast_tenTo, cast_tenTo, pow_toNat_div (by norm_num)]

theorem two_zpow_pos (k : Int) : (0 : ℚ) < 2 ^ k :=
  zpow_pos two_pos k

theorem ten_zpow_pos (k : Int) : (0 : ℚ) < 10 ^ k :=
  zpow_pos (by norm_num) k

/-- A number with a minus sign or without one. -/
def signed (negative : Bool) (x : ℚ) : ℚ :=
  if negative then -x else x

@[simp] theorem signed_false (x : ℚ) : signed false x = x := rfl

@[simp] theorem signed_true (x : ℚ) : signed true x = -x := rfl

theorem signed_zero (negative : Bool) : signed negative 0 = 0 := by
  cases negative with
  | false => rfl
  | true => exact neg_zero

theorem compare_neg_neg (x y : ℚ) : compare (-x) (-y) = (compare x y).swap := by
  rcases lt_trichotomy x y with less | same | more
  · rw [compare_lt_iff_lt.mpr less, compare_gt_iff_gt.mpr (neg_lt_neg less)]
    rfl
  · rw [same, compare_eq_iff_eq.mpr rfl, compare_eq_iff_eq.mpr rfl]
    rfl
  · rw [compare_gt_iff_gt.mpr more, compare_lt_iff_lt.mpr (neg_lt_neg more)]
    rfl

/-! ## Decimals -/

/-- The value of a decimal. -/
def Numeral.value (d : Numeral) : ℚ :=
  d.digits * 10 ^ d.exponent

/-! ## Magnitudes -/

namespace Magnitude

variable {v w : Magnitude}

/-- The value of a magnitude. -/
def value (v : Magnitude) : ℚ :=
  v.mantissa * 2 ^ v.exponent

theorem value_eq_div (v : Magnitude) : v.value = v.numerator / v.denominator := by
  rw [value, numerator, denominator, Nat.cast_mul, mul_div_assoc, twoTo_div]

theorem atLeastPowerOfTen_iff (v : Magnitude) (k : Int) :
    v.atLeastPowerOfTen k = true ↔ (10 : ℚ) ^ k ≤ v.value := by
  have denominator : (0 : ℚ) < v.denominator := Nat.cast_pos.mpr v.denominator_pos
  have power : (0 : ℚ) < tenTo (-k).toNat := Nat.cast_pos.mpr (tenTo_pos _)
  rw [atLeastPowerOfTen, decide_eq_true_iff, ← tenTo_div, value_eq_div,
    div_le_div_iff₀ power denominator]
  norm_cast

/-- The magnitudes of binary64 numbers: at most 53 bits of mantissa, and all of them unless the
exponent is the smallest one. -/
structure Canonical (v : Magnitude) : Prop where
  mantissa_lt : v.mantissa < 2 ^ 53
  minExponent_le : -1074 ≤ v.exponent
  exponent_le : v.exponent ≤ 971
  normal : -1074 < v.exponent → 2 ^ 52 ≤ v.mantissa

/-- The bits of a magnitude, without a sign. The leading bit of a normal mantissa adds one to the
exponent before it. -/
def bits (v : Magnitude) : Nat :=
  (v.exponent - minExponent).toNat * twoTo fractionBits + v.mantissa

theorem bits_eq (v : Magnitude) : v.bits = (v.exponent + 1074).toNat * 2 ^ 52 + v.mantissa := by
  rw [bits, show v.exponent - minExponent = v.exponent + 1074 by rw [minExponent]; omega]
  rfl

theorem bits_injective (canonical : v.Canonical) (other : w.Canonical) (same : v.bits = w.bits) :
    v = w := by
  obtain ⟨mantissa, exponent⟩ := v
  obtain ⟨mantissa', exponent'⟩ := w
  obtain ⟨lt, least, -, normal⟩ := canonical
  obtain ⟨lt', least', -, normal'⟩ := other
  rw [bits_eq, bits_eq] at same
  simp only at lt least normal lt' least' normal' same
  rw [Magnitude.mk.injEq]
  omega

/-- The bits of a magnitude are below those of infinity. -/
theorem Canonical.bits_lt (canonical : v.Canonical) : v.bits < 2047 * 2 ^ 52 := by
  obtain ⟨mantissa_lt, -, exponent_le, -⟩ := canonical
  rw [bits_eq]
  omega

/-- Zero is the first of the magnitudes with the smallest exponent. -/
theorem Canonical.bits_of_zero (canonical : v.Canonical) (zero : v.mantissa = 0) : v.bits = 0 := by
  obtain ⟨-, minExponent_le, -, normal⟩ := canonical
  rw [bits_eq]
  omega

theorem ofFields_eq (biased fraction : Nat) :
    ofFields biased fraction =
      if biased = 0 then ⟨fraction, -1074⟩ else ⟨2 ^ 52 + fraction, -1074 + (biased - 1 : Nat)⟩ :=
  rfl

/-- What is in the fields of a number is a canonical magnitude. -/
theorem canonical_ofFields {biased fraction : Nat} (exponent : biased < 2047)
    (short : fraction < 2 ^ 52) : (ofFields biased fraction).Canonical := by
  rw [ofFields_eq]
  split <;> constructor <;> simp only <;> omega

theorem bits_ofFields (biased fraction : Nat) :
    (ofFields biased fraction).bits = biased * 2 ^ 52 + fraction := by
  rw [bits_eq, ofFields_eq]
  split <;> simp only <;> omega

theorem value_eq_zero_iff (v : Magnitude) : v.value = 0 ↔ v.mantissa = 0 := by
  rw [value, mul_eq_zero, or_iff_left (two_zpow_pos _).ne', Nat.cast_eq_zero]

theorem value_pos (positive : 0 < v.mantissa) : 0 < v.value :=
  mul_pos (Nat.cast_pos.mpr positive) (two_zpow_pos _)

/-- A magnitude is below the power of two that its mantissa is below. -/
theorem Canonical.value_lt (canonical : v.Canonical) : v.value < 2 ^ (v.exponent + 53) := by
  rw [value, zpow_add₀ two_ne_zero, mul_comm]
  have : (v.mantissa : ℚ) < 2 ^ 53 := by exact_mod_cast canonical.mantissa_lt
  exact mul_lt_mul_of_pos_left this (two_zpow_pos _)

theorem Canonical.le_value (canonical : v.Canonical) (normal : -1074 < v.exponent) :
    2 ^ (v.exponent + 52) ≤ v.value := by
  rw [value, zpow_add₀ two_ne_zero, mul_comm]
  have : (2 : ℚ) ^ 52 ≤ v.mantissa := by exact_mod_cast canonical.normal normal
  exact mul_le_mul_of_nonneg_right this (two_zpow_pos _).le

theorem Canonical.value_lt_of_exponent_lt (canonical : v.Canonical) (other : w.Canonical)
    (lower : v.exponent < w.exponent) : v.value < w.value :=
  calc v.value < 2 ^ (v.exponent + 53) := canonical.value_lt
    _ ≤ 2 ^ (w.exponent + 52) := zpow_le_zpow_right₀ one_le_two (by omega)
    _ ≤ w.value := other.le_value (lt_of_le_of_lt canonical.minExponent_le lower)

/-- Magnitudes are in the order of their exponents, then of their mantissas. -/
theorem Canonical.compare_value (canonical : v.Canonical) (other : w.Canonical) :
    (compare v.exponent w.exponent).then (compare v.mantissa w.mantissa) =
      compare v.value w.value := by
  rcases lt_trichotomy v.exponent w.exponent with lower | equal | higher
  · rw [compare_lt_iff_lt.mpr lower,
      compare_lt_iff_lt.mpr (canonical.value_lt_of_exponent_lt other lower)]
    rfl
  · rw [compare_eq_iff_eq.mpr equal, value, value, equal]
    rcases lt_trichotomy v.mantissa w.mantissa with less | same | more
    · have : (v.mantissa : ℚ) < w.mantissa := Nat.cast_lt.mpr less
      rw [compare_lt_iff_lt.mpr less,
        compare_lt_iff_lt.mpr (mul_lt_mul_of_pos_right this (two_zpow_pos _))]
      rfl
    · rw [compare_eq_iff_eq.mpr same, same, compare_eq_iff_eq.mpr rfl]
      rfl
    · have : (w.mantissa : ℚ) < v.mantissa := Nat.cast_lt.mpr more
      rw [compare_gt_iff_gt.mpr more,
        compare_gt_iff_gt.mpr (mul_lt_mul_of_pos_right this (two_zpow_pos _))]
      rfl
  · rw [compare_gt_iff_gt.mpr higher,
      compare_gt_iff_gt.mpr (other.value_lt_of_exponent_lt canonical higher)]
    rfl

end Magnitude

end PolishCalc.Decimal
