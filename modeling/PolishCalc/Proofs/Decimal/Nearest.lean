import Mathlib.Data.Int.Log
import PolishCalc.Proofs.Decimal.Value

/-!
# Rounding to the nearest magnitude

What it means that a rational number rounds to a magnitude.

* **multiples** — `IsNearest unit x n`: of the multiples of a unit the `n`-th is nearest to `x`, and
  of two equally near ones it is the even one. Rounding to integers finds it
  (`isNearest_roundEven`), and it grows with `x` (`IsNearest.mono`);
* **rounding** — `Magnitude.nearest` rounds to the nearest integer in the unit that the size of the
  number asks for, and in case of a tie to the even one. This is what rounding should be: no
  canonical magnitude is nearer, and of two equally near ones it is the even one
  (`Magnitude.nearest_closest`);
* **intervals** — the numbers in the interval around a magnitude round to it
  (`Magnitude.bits_nearest`), and no number is in the intervals around two of them
  (`Magnitude.Rounds.eq`).
-/

namespace PolishCalc.Decimal

/-! ## Integers -/

/-- The natural number nearest to a rational number; of two equally near ones the even one. -/
def roundEven (x : ℚ) : Nat :=
  let below := ⌊x⌋₊
  if x - below < 1 / 2 then below
  else if 1 / 2 < x - below then below + 1
  else if below % 2 = 0 then below
  else below + 1

theorem roundEven_near {x : ℚ} (nonneg : 0 ≤ x) :
    |x - roundEven x| ≤ 1 / 2 ∧ (|x - roundEven x| = 1 / 2 → roundEven x % 2 = 0) := by
  have low : (⌊x⌋₊ : ℚ) ≤ x := Nat.floor_le nonneg
  have high : x < ⌊x⌋₊ + 1 := Nat.lt_floor_add_one x
  have down : |x - ⌊x⌋₊| = x - ⌊x⌋₊ := abs_of_nonneg (by linarith)
  have up : |x - (⌊x⌋₊ + 1 : Nat)| = ⌊x⌋₊ + 1 - x := by
    rw [Nat.cast_succ, abs_of_nonpos (by linarith)]
    ring
  rw [roundEven]
  split_ifs with less more even
  · exact ⟨by rw [down]; exact less.le, fun tie => absurd (down ▸ tie) less.ne⟩
  · rw [up]
    exact ⟨by linarith, fun tie => by linarith⟩
  · exact ⟨by rw [down]; exact not_lt.mp more, fun _ => even⟩
  · rw [up]
    exact ⟨by linarith, fun _ => by omega⟩

theorem abs_sub_le_distances (x : ℚ) (m n : Int) : |(m : ℚ) - n| ≤ |x - m| + |x - n| := by
  rw [abs_sub_comm x m]
  exact abs_sub_le _ _ _

/-- No integer is nearer, and of two equally near ones it is the even one. -/
theorem roundEven_closest {x : ℚ} (nonneg : 0 ≤ x) {n : Int} (other : n ≠ roundEven x) :
    |x - roundEven x| ≤ |x - n| ∧ (|x - roundEven x| = |x - n| → roundEven x % 2 = 0) := by
  obtain ⟨near, even⟩ := roundEven_near nonneg
  have apart : (1 : ℚ) ≤ |(n : ℚ) - roundEven x| := by
    exact_mod_cast Int.one_le_abs (sub_ne_zero.mpr other)
  have distances := abs_sub_le_distances x n (roundEven x)
  push_cast at distances
  exact ⟨by linarith, fun tie => even (by linarith)⟩

theorem roundEven_eq {x : ℚ} (nonneg : 0 ≤ x) {n : Nat} (near : |x - n| ≤ 1 / 2)
    (even : |x - n| = 1 / 2 → n % 2 = 0) : roundEven x = n := by
  obtain ⟨near', even'⟩ := roundEven_near nonneg
  have distances := abs_sub_le_distances x n (roundEven x)
  push_cast at distances
  have close : |(n : Int) - roundEven x| ≤ 1 := by
    exact_mod_cast (show |(n : ℚ) - roundEven x| ≤ 1 by linarith)
  by_contra different
  -- two neighbours both half-way off would both be even
  have apart : (1 : ℚ) ≤ |(n : ℚ) - roundEven x| := by
    exact_mod_cast Int.one_le_abs (show (n : Int) - roundEven x ≠ 0 by omega)
  have := even (by linarith)
  have := even' (by linarith)
  rw [abs_le] at close
  omega

/-! ## Multiples of a unit -/

/-- Of the multiples of a unit, this one is nearest to a number; of two equally near ones it is the
even one. -/
structure IsNearest (unit x : ℚ) (n : Int) : Prop where
  closest : ∀ m : Int, |x - n * unit| ≤ |x - m * unit|
  even : ∀ m : Int, m ≠ n → |x - n * unit| = |x - m * unit| → n % 2 = 0

theorem le_middle {x a b : ℚ} (above : a < b) (near : |x - a| ≤ |x - b|) : 2 * x ≤ a + b := by
  rcases abs_cases (x - a) with ⟨equal, _⟩ | ⟨equal, _⟩ <;>
    rcases abs_cases (x - b) with ⟨equal', _⟩ | ⟨equal', _⟩ <;> linarith

theorem middle_le {x a b : ℚ} (below : b < a) (near : |x - a| ≤ |x - b|) : a + b ≤ 2 * x := by
  have mirrored : |-x - -a| ≤ |-x - -b| := by
    rwa [neg_sub_neg, neg_sub_neg, abs_sub_comm a, abs_sub_comm b]
  have := le_middle (neg_lt_neg below) mirrored
  linarith

/-- A distance in units. -/
theorem abs_sub_mul_unit {unit : ℚ} (positive : 0 < unit) (x n : ℚ) :
    |x - n * unit| = |x / unit - n| * unit := by
  rw [← abs_of_pos positive, ← abs_mul, abs_of_pos positive, sub_mul,
    div_mul_cancel₀ _ positive.ne']

/-- Rounding to the nearest integer, in units. -/
theorem isNearest_roundEven {unit x : ℚ} (positive : 0 < unit) (nonneg : 0 ≤ x) :
    IsNearest unit x (roundEven (x / unit)) := by
  have scaled : 0 ≤ x / unit := div_nonneg nonneg positive.le
  constructor <;> intro m
  · rw [abs_sub_mul_unit positive, abs_sub_mul_unit positive]
    by_cases same : m = roundEven (x / unit)
    · rw [same]
    · exact mul_le_mul_of_nonneg_right (roundEven_closest scaled same).1 positive.le
  · intro other tie
    rw [abs_sub_mul_unit positive, abs_sub_mul_unit positive] at tie
    exact_mod_cast (roundEven_closest scaled other).2 (mul_right_cancel₀ positive.ne' tie)

namespace IsNearest

variable {unit x y : ℚ} {m n : Int}

theorem neg (nearest : IsNearest unit x n) : IsNearest unit (-x) (-n) := by
  have mirrored : ∀ k : Int, |-x - k * unit| = |x - (-k : Int) * unit| := by
    intro k
    rw [← abs_neg]
    congr 1
    push_cast
    ring
  constructor <;> intro k
  · rw [mirrored, mirrored, neg_neg]
    exact nearest.closest (-k)
  · intro other tie
    rw [mirrored, mirrored, neg_neg] at tie
    have := nearest.even (-k) (by omega) tie
    omega

/-- A greater number has no lower multiple nearest to it. -/
theorem mono (positive : 0 < unit) (order : x ≤ y) (left : IsNearest unit x m)
    (right : IsNearest unit y n) : m ≤ n := by
  by_contra above
  have scaled : ∀ {a b : Int}, a < b → (a : ℚ) * unit < b * unit := fun less =>
    mul_lt_mul_of_pos_right (Int.cast_lt.mpr less) positive
  have apart := scaled (not_le.mp above)
  -- both numbers could only be in the middle between the two multiples
  have low := middle_le apart (left.closest n)
  have high := le_middle apart (right.closest m)
  obtain rfl : x = y := by linarith
  have tie : |x - m * unit| = |x - n * unit| := le_antisymm (left.closest n) (right.closest m)
  have evenLeft := left.even n (by omega) tie
  have evenRight := right.even m (by omega) tie.symm
  -- two even multiples have another one between them, which would be nearer
  have between := le_middle (scaled (show n < n + 1 by omega)) (right.closest (n + 1))
  have := scaled (show n + 1 < m by omega)
  linarith

end IsNearest

/-! ## Magnitudes -/

/-- The exponent of the unit to which a positive number is rounded: 53 bits are kept, as far as the
smallest exponent allows. -/
def unitExponent (x : ℚ) : Int :=
  max Magnitude.minExponent (Int.log 2 x - Magnitude.fractionBits)

theorem unitExponent_eq {x : ℚ} (positive : 0 < x) {e : Int} (least : -1074 ≤ e)
    (upper : x < 2 ^ (e + 53)) (lower : e = -1074 ∨ 2 ^ (e + 52) ≤ x) : unitExponent x = e := by
  have above : Int.log 2 x < e + 53 :=
    (Int.lt_zpow_iff_log_lt one_lt_two positive).mp (by exact_mod_cast upper)
  have below : e = -1074 ∨ e + 52 ≤ Int.log 2 x :=
    lower.imp_right fun le => (Int.zpow_le_iff_le_log one_lt_two positive).mp (by exact_mod_cast le)
  show max (-1074) (Int.log 2 x - (52 : Nat)) = e
  omega

/-- Above the smallest exponent, 53 bits are kept. -/
theorem le_of_unitExponent {x : ℚ} (positive : 0 < x) (normal : -1074 < unitExponent x) :
    2 ^ (unitExponent x + 52) ≤ x := by
  have unit : unitExponent x = max (-1074) (Int.log 2 x - (52 : Nat)) := rfl
  have begins : unitExponent x + 52 ≤ Int.log 2 x := by omega
  exact_mod_cast (Int.zpow_le_iff_le_log (b := 2) one_lt_two positive).mpr begins

namespace Magnitude

/-- The magnitude nearest to a number that is not negative; of two equally near ones the even one.
The mantissa may be the power of two that already belongs to the next exponent. -/
def nearest (x : ℚ) : Magnitude :=
  if x = 0 then ⟨0, minExponent⟩ else ⟨roundEven (x / 2 ^ unitExponent x), unitExponent x⟩

variable {v : Magnitude}

theorem nearest_of_pos {x : ℚ} (positive : 0 < x) :
    nearest x = ⟨roundEven (x / 2 ^ unitExponent x), unitExponent x⟩ :=
  if_neg positive.ne'

/-- A number is rounded to a multiple of the unit that its size asks for. -/
theorem isNearest_nearest {x : ℚ} (positive : 0 < x) :
    IsNearest (2 ^ unitExponent x) x (nearest x).mantissa := by
  rw [nearest_of_pos positive]
  exact isNearest_roundEven (two_zpow_pos _) positive.le

theorem value_nearest {x : ℚ} (positive : 0 < x) :
    (nearest x).value = ((nearest x).mantissa : Int) * 2 ^ unitExponent x := by
  rw [nearest_of_pos positive, value, Int.cast_natCast]

/-- No canonical magnitude is nearer than the rounded number, and of two equally near ones the
rounded number is the even one. -/
theorem nearest_closest {x : ℚ} (nonneg : 0 ≤ x) (canonical : v.Canonical) :
    |x - (nearest x).value| ≤ |x - v.value| ∧
      (v.value ≠ (nearest x).value → |x - (nearest x).value| = |x - v.value| →
        (nearest x).mantissa % 2 = 0) := by
  rcases nonneg.eq_or_lt with rfl | positive
  · have zero : nearest 0 = ⟨0, minExponent⟩ := if_pos rfl
    rw [zero, value, Nat.cast_zero, zero_mul, sub_zero, abs_zero]
    exact ⟨abs_nonneg _, fun _ _ => rfl⟩
  · by_cases coarse : unitExponent x ≤ v.exponent
    · have multiple : v.value =
          ((v.mantissa * 2 ^ (v.exponent - unitExponent x).toNat : Int) : ℚ) *
            2 ^ unitExponent x := by
        push_cast
        rw [value, mul_assoc, ← zpow_natCast, ← zpow_add₀ two_ne_zero]
        congr 2
        omega
      rw [multiple, value_nearest positive]
      refine ⟨(isNearest_nearest positive).closest _, fun other tie => ?_⟩
      exact_mod_cast (isNearest_nearest positive).even _ (fun same => other (by rw [same])) tie
    · -- finer magnitudes are below the power of two at which the unit begins
      have normal : -1074 < unitExponent x :=
        lt_of_le_of_lt canonical.minExponent_le (not_le.mp coarse)
      have begins := le_of_unitExponent positive normal
      have finer : v.value < 2 ^ (unitExponent x + 52) :=
        canonical.value_lt.trans_le (zpow_le_zpow_right₀ one_le_two (by omega))
      have near := (isNearest_nearest positive).closest (2 ^ 52)
      have power : (((2 : Int) ^ 52 : Int) : ℚ) * 2 ^ unitExponent x = 2 ^ (unitExponent x + 52) := by
        rw [zpow_add₀ two_ne_zero, mul_comm]
        norm_cast
      rw [← value_nearest positive, power, abs_of_nonneg (sub_nonneg.mpr begins)] at near
      rw [abs_of_pos (show 0 < x - v.value by linarith)]
      exact ⟨by linarith, fun _ tie => by linarith⟩

end Magnitude

/-! ## Intervals -/

/-- A number lies in an interval whose ends are given in quarters of the unit of an exponent. -/
def Interval.Holds (r : Interval) (exponent : Int) (x : ℚ) : Prop :=
  if r.closed then r.low * 2 ^ (exponent - 2) ≤ x ∧ x ≤ r.high * 2 ^ (exponent - 2)
  else r.low * 2 ^ (exponent - 2) < x ∧ x < r.high * 2 ^ (exponent - 2)

namespace Interval

variable {r : Interval} {exponent : Int}

theorem Holds.between {x y z : ℚ} (least : r.Holds exponent x) (greatest : r.Holds exponent z)
    (above : x ≤ y) (below : y ≤ z) : r.Holds exponent y := by
  rw [Holds] at *
  split at least
  · rw [if_pos ‹_›] at *
    exact ⟨least.1.trans above, below.trans greatest.2⟩
  · rw [if_neg ‹_›] at *
    exact ⟨least.1.trans_le above, below.trans_lt greatest.2⟩

end Interval

namespace Magnitude

variable {v : Magnitude} {x : ℚ}

/-- The number rounds to the magnitude. -/
def Rounds (v : Magnitude) (x : ℚ) : Prop :=
  v.interval.Holds v.exponent x

theorem quarter_mul (n : ℚ) (e : Int) : n * 2 ^ (e - 2) = n / 4 * 2 ^ e := by
  rw [zpow_sub₀ two_ne_zero]
  ring

/-- What rounding to a magnitude says in its unit. -/
theorem rounds_iff (v : Magnitude) (x : ℚ) :
    v.Rounds x ↔
      if v.mantissa % 2 = 0 then
        (v.interval.low : ℚ) / 4 ≤ x / 2 ^ v.exponent ∧ x / 2 ^ v.exponent ≤ v.mantissa + 1 / 2
      else
        (v.interval.low : ℚ) / 4 < x / 2 ^ v.exponent ∧ x / 2 ^ v.exponent < v.mantissa + 1 / 2 := by
  have unit := two_zpow_pos v.exponent
  have high : (v.interval.high : ℚ) / 4 = v.mantissa + 1 / 2 := by
    rw [interval]
    push_cast
    ring
  rw [Rounds, Interval.Holds, quarter_mul, quarter_mul, high, ← le_div_iff₀ unit,
    ← div_le_iff₀ unit, ← lt_div_iff₀ unit, ← div_lt_iff₀ unit]
  simp only [interval, beq_iff_eq]

/-- The low end is half a unit below the magnitude, or a quarter below a power of two. -/
theorem low_interval (positive : 0 < v.mantissa) :
    (v.interval.low : ℚ) / 4 =
      v.mantissa - if v.mantissa = 2 ^ 52 ∧ -1074 < v.exponent then 1 / 4 else 1 / 2 := by
  show ((4 * v.mantissa - if v.mantissa = 2 ^ 52 ∧ -1074 < v.exponent then 1 else 2 : Nat) : ℚ) / 4 = _
  split
  · rw [Nat.cast_sub (by omega)]
    push_cast
    ring
  · rw [Nat.cast_sub (by omega)]
    push_cast
    ring

theorem Rounds.near (positive : 0 < v.mantissa) (rounds : v.Rounds x) :
    |x / 2 ^ v.exponent - v.mantissa| ≤ 1 / 2 ∧
      (|x / 2 ^ v.exponent - v.mantissa| = 1 / 2 → v.mantissa % 2 = 0) := by
  have low : (v.mantissa : ℚ) - 1 / 2 ≤ v.interval.low / 4 := by
    rw [low_interval positive]
    split <;> linarith
  rw [rounds_iff] at rounds
  split at rounds
  · next even =>
    exact ⟨abs_le.mpr ⟨by linarith, by linarith⟩, fun _ => even⟩
  · have strict : |x / 2 ^ v.exponent - v.mantissa| < 1 / 2 :=
      abs_lt.mpr ⟨by linarith, by linarith⟩
    exact ⟨strict.le, fun tie => absurd tie strict.ne⟩

theorem Rounds.low_le (rounds : v.Rounds x) : v.interval.low / 4 ≤ x / 2 ^ v.exponent := by
  rw [rounds_iff] at rounds
  split at rounds
  · exact rounds.1
  · exact rounds.1.le

theorem Rounds.pos (positive : 0 < v.mantissa) (rounds : v.Rounds x) : 0 < x := by
  have least : (1 : ℚ) ≤ v.mantissa := by exact_mod_cast positive
  have scaled : 0 < x / 2 ^ v.exponent := by
    have := abs_le.mp (rounds.near positive).1
    linarith
  exact (div_pos_iff_of_pos_right (two_zpow_pos _)).mp scaled

/-- A positive magnitude rounds to itself. -/
theorem rounds_value (positive : 0 < v.mantissa) : v.Rounds v.value := by
  have low : (v.interval.low : ℚ) / 4 < v.mantissa := by
    rw [low_interval positive]
    split <;> linarith
  rw [rounds_iff, value, mul_div_assoc, div_self (two_zpow_pos _).ne', mul_one]
  split
  · exact ⟨low.le, by linarith⟩
  · exact ⟨low, by linarith⟩

theorem lt_zpow_add_iff (e : Int) (k : Nat) : x < 2 ^ (e + k) ↔ x / 2 ^ e < 2 ^ k := by
  rw [div_lt_iff₀ (two_zpow_pos e), ← zpow_natCast, mul_comm, ← zpow_add₀ two_ne_zero]

theorem zpow_add_le_iff (e : Int) (k : Nat) : 2 ^ (e + k) ≤ x ↔ 2 ^ k ≤ x / 2 ^ e := by
  rw [le_div_iff₀ (two_zpow_pos e), ← zpow_natCast, mul_comm, ← zpow_add₀ two_ne_zero]

/-- The numbers in the interval around a magnitude round to it. -/
theorem bits_nearest (canonical : v.Canonical) (positive : 0 < v.mantissa) (rounds : v.Rounds x) :
    (nearest x).bits = v.bits := by
  obtain ⟨near, even⟩ := rounds.near positive
  have pos := rounds.pos positive
  have unit := two_zpow_pos v.exponent
  have top : x / 2 ^ v.exponent < 2 ^ 53 := by
    have : (v.mantissa : ℚ) + 1 ≤ 2 ^ 53 := by exact_mod_cast canonical.mantissa_lt
    have := abs_le.mp near
    linarith
  by_cases normal : v.exponent = -1074 ∨ 2 ^ 52 ≤ x / 2 ^ v.exponent
  · have same : unitExponent x = v.exponent :=
      unitExponent_eq pos canonical.minExponent_le ((lt_zpow_add_iff _ 53).mpr top)
        (normal.imp_right (zpow_add_le_iff _ 52).mpr)
    rw [nearest_of_pos pos, same, roundEven_eq (div_pos pos unit).le near even]
  · -- below a power of two the units are half as large
    obtain ⟨different, below⟩ := not_or.mp normal
    have above : -1074 < v.exponent := lt_of_le_of_ne canonical.minExponent_le (Ne.symm different)
    have power : v.mantissa = 2 ^ 52 := by
      have : (v.mantissa : ℚ) < 2 ^ 52 + 1 := by
        have := abs_le.mp near
        linarith
      have : v.mantissa < 2 ^ 52 + 1 := by exact_mod_cast this
      have := canonical.normal above
      omega
    have low := rounds.low_le
    rw [low_interval positive, if_pos ⟨power, above⟩, power] at low
    push_cast at low
    have halved : x / 2 ^ (v.exponent - 1) = 2 * (x / 2 ^ v.exponent) := by
      rw [zpow_sub_one₀ two_ne_zero]
      field_simp
    have finer : unitExponent x = v.exponent - 1 := by
      refine unitExponent_eq pos (by omega) ?_ (Or.inr ?_)
      · refine (lt_zpow_add_iff _ 53).mpr ?_
        rw [halved]
        linarith
      · refine (zpow_add_le_iff _ 52).mpr ?_
        rw [halved]
        linarith
    have carry : roundEven (2 * (x / 2 ^ v.exponent)) = 2 ^ 53 := by
      refine roundEven_eq (by linarith) ?_ fun _ => rfl
      push_cast
      exact abs_le.mpr ⟨by linarith, by linarith⟩
    rw [nearest_of_pos pos, finer, halved, carry, bits_eq, bits_eq, power]
    show (v.exponent - 1 + 1074).toNat * 2 ^ 52 + 2 ^ 53 = _
    omega

/-- A number rounds to one magnitude only. -/
theorem Rounds.eq {w : Magnitude} (rounds : v.Rounds x) (rounds' : w.Rounds x)
    (canonical : v.Canonical) (canonical' : w.Canonical) (positive : 0 < v.mantissa)
    (positive' : 0 < w.mantissa) : v = w :=
  bits_injective canonical canonical' <|
    (bits_nearest canonical positive rounds).symm.trans (bits_nearest canonical' positive' rounds')

end Magnitude

end PolishCalc.Decimal
