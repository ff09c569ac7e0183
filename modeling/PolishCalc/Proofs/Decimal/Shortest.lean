import PolishCalc.Proofs.Decimal.Nearest

/-!
# The shortest digits

What the search through the decimal grids finds.

* **grids** — the exact comparisons on a grid are comparisons of rational numbers
  (`Interval.contains_iff`). Of the points of a grid the two around a magnitude decide whether any
  rounds to it (`Interval.nearestPoint?_cases`, `Interval.not_holds_point`);
* **search** — the decimal that is found rounds to the magnitude, and no point of the next coarser
  grid does (`searchGrids_found`). So its last digit is not zero
  (`Magnitude.shortest_digits_mod_ten`) and it is not below a power of ten that the magnitude
  reaches (`Magnitude.le_value_shortest`).
-/

namespace PolishCalc.Decimal

/-! ## Grids -/

namespace Scale

variable (e k : Int)

theorem denominator_pos : 0 < (on e k).denominator :=
  Nat.mul_pos (twoTo_pos _) (tenTo_pos _)

/-- A quarter of a unit in steps of the grid. -/
theorem numerator_div : ((on e k).numerator : ℚ) / (on e k).denominator = 2 ^ (e - 2) / 10 ^ k := by
  rw [on, Nat.cast_mul, Nat.cast_mul, ← twoTo_div, ← tenTo_div, neg_sub, div_div_eq_mul_div,
    div_mul_eq_mul_div, div_div]

variable {e k} (points quarters : Nat)

/-- A point of the grid and a number of quarters are compared by their values. -/
theorem points_le_iff :
    points * (on e k).denominator ≤ quarters * (on e k).numerator ↔
      (points : ℚ) * 10 ^ k ≤ quarters * 2 ^ (e - 2) := by
  have denominator : (0 : ℚ) < (on e k).denominator := Nat.cast_pos.mpr (denominator_pos e k)
  rw [← Nat.cast_le (α := ℚ), Nat.cast_mul, Nat.cast_mul, ← le_div_iff₀ denominator, mul_div_assoc,
    numerator_div, ← mul_div_assoc, le_div_iff₀ (ten_zpow_pos k)]

theorem le_points_iff :
    quarters * (on e k).numerator ≤ points * (on e k).denominator ↔
      (quarters : ℚ) * 2 ^ (e - 2) ≤ points * 10 ^ k := by
  have denominator : (0 : ℚ) < (on e k).denominator := Nat.cast_pos.mpr (denominator_pos e k)
  rw [← Nat.cast_le (α := ℚ), Nat.cast_mul, Nat.cast_mul, ← div_le_iff₀ denominator, mul_div_assoc,
    numerator_div, ← mul_div_assoc, div_le_iff₀ (ten_zpow_pos k)]

theorem points_lt_iff :
    points * (on e k).denominator < quarters * (on e k).numerator ↔
      (points : ℚ) * 10 ^ k < quarters * 2 ^ (e - 2) := by
  rw [← Nat.not_le, le_points_iff, not_le]

theorem lt_points_iff :
    quarters * (on e k).numerator < points * (on e k).denominator ↔
      (quarters : ℚ) * 2 ^ (e - 2) < points * 10 ^ k := by
  rw [← Nat.not_le, points_le_iff, not_le]

end Scale

namespace Interval

variable {r : Interval} {e k : Int}

theorem contains_iff (n : Nat) :
    r.contains (Scale.on e k) n = true ↔ r.Holds e (n * 10 ^ k) := by
  rw [contains, Holds]
  split
  · rw [Bool.and_eq_true, decide_eq_true_iff, decide_eq_true_iff, Scale.points_le_iff,
      Scale.le_points_iff]
  · rw [Bool.and_eq_true, decide_eq_true_iff, decide_eq_true_iff, Scale.points_lt_iff,
      Scale.lt_points_iff]

/-- The last point of a grid that is not above the middle of an interval. -/
def pointBelow (r : Interval) (e k : Int) : Nat :=
  r.middle * (Scale.on e k).numerator / (Scale.on e k).denominator

theorem pointBelow_le (r : Interval) (e k : Int) :
    (r.pointBelow e k : ℚ) * 10 ^ k ≤ r.middle * 2 ^ (e - 2) :=
  (Scale.points_le_iff _ _).mp (Nat.div_mul_le_self _ _)

theorem lt_pointBelow_add_one (r : Interval) (e k : Int) :
    (r.middle : ℚ) * 2 ^ (e - 2) < (r.pointBelow e k + 1 : Nat) * 10 ^ k :=
  (Scale.lt_points_iff _ _).mp <| by
    rw [Nat.mul_comm (_ + 1)]
    exact Nat.lt_mul_div_succ _ (Scale.denominator_pos e k)

/-- A middle that is a point of the grid is the point below it. -/
theorem pointBelow_eq {n : Nat} (point : (r.middle : ℚ) * 2 ^ (e - 2) = n * 10 ^ k) :
    r.pointBelow e k = n := by
  have below := r.pointBelow_le e k
  have above := r.lt_pointBelow_add_one e k
  rw [point, mul_le_mul_iff_left₀ (ten_zpow_pos k), Nat.cast_le] at below
  rw [point, mul_lt_mul_iff_left₀ (ten_zpow_pos k), Nat.cast_lt] at above
  omega

/-- The nearest point is one of the two around the middle, unless neither is in the interval. -/
theorem nearestPoint?_cases (r : Interval) (e k : Int) :
    (r.nearestPoint? (Scale.on e k) = none ∧ ¬ r.Holds e (r.pointBelow e k * 10 ^ k) ∧
        ¬ r.Holds e ((r.pointBelow e k + 1 : Nat) * 10 ^ k)) ∨
      ∃ n, r.nearestPoint? (Scale.on e k) = some n ∧ n ≤ r.pointBelow e k + 1 ∧
        r.Holds e (n * 10 ^ k) := by
  simp only [← contains_iff, nearestPoint?]
  split
  · next below above => exact Or.inl ⟨rfl, Bool.eq_false_iff.mp below, Bool.eq_false_iff.mp above⟩
  · next below _ => exact Or.inr ⟨_, rfl, Nat.le_succ _, below⟩
  · next _ above => exact Or.inr ⟨_, rfl, le_refl _, above⟩
  · next below above =>
    split
    · exact Or.inr ⟨_, rfl, Nat.le_succ _, below⟩
    · exact Or.inr ⟨_, rfl, le_refl _, above⟩

/-- If neither point around the middle is in the interval then no point of the grid is. -/
theorem not_holds_point (middle : r.Holds e (r.middle * 2 ^ (e - 2)))
    (outside : ¬ r.Holds e (r.pointBelow e k * 10 ^ k) ∧
      ¬ r.Holds e ((r.pointBelow e k + 1 : Nat) * 10 ^ k)) (n : Nat) :
    ¬ r.Holds e (n * 10 ^ k) := by
  have grid : ∀ {a b : Nat}, a ≤ b → (a : ℚ) * 10 ^ k ≤ b * 10 ^ k := fun order =>
    mul_le_mul_of_nonneg_right (Nat.cast_le.mpr order) (ten_zpow_pos k).le
  intro holds
  rcases Nat.lt_or_ge (r.pointBelow e k) n with above | below
  · exact outside.2 (middle.between holds (r.lt_pointBelow_add_one e k).le (grid above))
  · exact outside.1 (holds.between middle (grid below) (r.pointBelow_le e k))

end Interval

/-! ## The search -/

namespace Magnitude

variable {v : Magnitude}

theorem middle_interval (v : Magnitude) :
    (v.interval.middle : ℚ) * 2 ^ (v.exponent - 2) = v.value := by
  rw [quarter_mul, interval, value]
  push_cast
  ring

/-- A magnitude is a point of every grid that is fine enough. -/
theorem exists_point (v : Magnitude) {k : Int} (fine : k ≤ 0) (finer : k ≤ v.exponent) :
    ∃ n : Nat, v.value = n * 10 ^ k := by
  obtain ⟨j, rfl⟩ := Int.exists_eq_neg_ofNat fine
  obtain ⟨i, scaled⟩ : ∃ i : Nat, v.exponent = i - j := ⟨(v.exponent + j).toNat, by omega⟩
  refine ⟨v.mantissa * 2 ^ i * 5 ^ j, ?_⟩
  rw [value, scaled, zpow_sub₀ two_ne_zero, zpow_neg, zpow_natCast, zpow_natCast, zpow_natCast,
    show (10 : ℚ) = 2 * 5 by norm_num, mul_pow]
  push_cast
  field_simp

/-- What the search finds from the grid `10 ^ k` on. -/
structure Found (v : Magnitude) (k : Int) (d : Numeral) : Prop where
  rounds : v.Rounds d.value
  near : d.value ≤ v.value + 10 ^ d.exponent
  exponent_le : d.exponent ≤ k
  coarsest : d.exponent < k → ∀ n : Nat, ¬ v.Rounds (n * 10 ^ (d.exponent + 1))

theorem searchGrids_found (positive : 0 < v.mantissa) (steps : Nat) :
    ∀ k : Int, k - steps ≤ 0 → k - steps ≤ v.exponent →
      v.Found k (searchGrids v.interval v.exponent steps k) := by
  have middle : v.interval.Holds v.exponent (v.interval.middle * 2 ^ (v.exponent - 2)) := by
    rw [middle_interval]
    exact rounds_value positive
  induction steps with
  | zero =>
      intro k fine finer
      obtain ⟨n, point⟩ := v.exists_point (k := k) (by omega) (by omega)
      have found : searchGrids v.interval v.exponent 0 k = ⟨n, k⟩ := by
        rw [searchGrids, ← Interval.pointBelow,
          Interval.pointBelow_eq ((middle_interval v).trans point)]
      have exact_value : (Numeral.mk n k).value = v.value := point.symm
      rw [found]
      constructor
      · rw [exact_value]
        exact rounds_value positive
      · rw [exact_value]
        exact le_add_of_nonneg_right (ten_zpow_pos _).le
      · exact le_refl _
      · exact fun below => absurd below (lt_irrefl _)
  | succ steps ih =>
      intro k fine finer
      rcases v.interval.nearestPoint?_cases v.exponent k with
        ⟨none, outside⟩ | ⟨n, some, near, holds⟩
      · have found : searchGrids v.interval v.exponent (steps + 1) k =
            searchGrids v.interval v.exponent steps (k - 1) := by
          rw [searchGrids, none]
        obtain ⟨rounds, near, le, coarsest⟩ := ih (k - 1) (by omega) (by omega)
        rw [found]
        refine ⟨rounds, near, by omega, fun below => ?_⟩
        rcases lt_or_eq_of_le le with lower | next
        · exact coarsest lower
        · rw [next, sub_add_cancel]
          exact Interval.not_holds_point middle outside
      · have found : searchGrids v.interval v.exponent (steps + 1) k = ⟨n, k⟩ := by
          rw [searchGrids, some]
        rw [found]
        constructor
        · exact holds
        · have below := v.interval.pointBelow_le v.exponent k
          rw [middle_interval] at below
          have : (n : ℚ) ≤ v.interval.pointBelow v.exponent k + 1 := by exact_mod_cast near
          calc (n : ℚ) * 10 ^ k ≤ (v.interval.pointBelow v.exponent k + 1) * 10 ^ k :=
                mul_le_mul_of_nonneg_right this (ten_zpow_pos k).le
            _ ≤ v.value + 10 ^ k := by rw [add_mul, one_mul]; linarith
        · exact le_refl _
        · exact fun below => absurd below (lt_irrefl _)

/-! ## The shortest decimal -/

/-- Ten to the number of digits of the integer part is above the magnitude. -/
theorem value_lt_integerDigits (v : Magnitude) : v.value < 10 ^ (v.integerDigits : Int) := by
  have denominator : (0 : ℚ) < v.denominator := Nat.cast_pos.mpr v.denominator_pos
  have whole : v.numerator / v.denominator < 10 ^ v.integerDigits :=
    (Nat.length_toDigits_le_iff (by decide) Nat.length_toDigits_pos).mp (le_refl _)
  rw [value_eq_div, div_lt_iff₀ denominator, zpow_natCast]
  exact_mod_cast (Nat.div_lt_iff_lt_mul v.denominator_pos).mp whole

theorem found_shortest (positive : 0 < v.mantissa) : v.Found v.integerDigits v.shortest :=
  searchGrids_found positive _ _ (by omega) (by omega)

theorem shortest_digits_pos (positive : 0 < v.mantissa) : 0 < v.shortest.digits := by
  have value_pos : 0 < v.shortest.value := (found_shortest positive).rounds.pos positive
  refine Nat.pos_of_ne_zero fun zero => value_pos.ne' ?_
  rw [Numeral.value, zero, Nat.cast_zero, zero_mul]

/-- The last of the shortest digits is not zero. -/
theorem shortest_digits_mod_ten (positive : 0 < v.mantissa) : v.shortest.digits % 10 ≠ 0 := by
  obtain ⟨rounds, near, exponent_le, coarsest⟩ := found_shortest positive
  have digits_pos := shortest_digits_pos positive
  intro zero
  rcases lt_or_eq_of_le exponent_le with finer | first
  · -- without its zero the decimal is on the next coarser grid
    refine coarsest finer (v.shortest.digits / 10) ?_
    have shorter : v.shortest.value =
        (v.shortest.digits / 10 : Nat) * 10 ^ (v.shortest.exponent + 1) := by
      have : (v.shortest.digits : ℚ) = (v.shortest.digits / 10 : Nat) * 10 := by
        exact_mod_cast (Nat.div_mul_cancel (Nat.dvd_of_mod_eq_zero zero)).symm
      rw [Numeral.value, this, zpow_add_one₀ (by norm_num)]
      ring
    rw [← shorter]
    exact rounds
  · -- the first grid has only the points 0 and 1 around the magnitude
    have few : (v.shortest.digits : ℚ) * 10 ^ (v.integerDigits : Int) <
        2 * 10 ^ (v.integerDigits : Int) := by
      have := v.value_lt_integerDigits
      rw [Numeral.value, first] at near
      linarith
    have few : v.shortest.digits < 2 := by
      exact_mod_cast lt_of_mul_lt_mul_right few (ten_zpow_pos _).le
    omega

/-- The shortest decimal reaches the powers of ten that the magnitude reaches. -/
theorem le_value_shortest (positive : 0 < v.mantissa) {k : Int} (reached : 10 ^ k ≤ v.value) :
    10 ^ k ≤ v.shortest.value := by
  obtain ⟨rounds, -, -, coarsest⟩ := found_shortest positive
  have ten : (1 : ℚ) < 10 := by norm_num
  have lower : k < v.integerDigits :=
    (zpow_lt_zpow_iff_right₀ ten).mp (reached.trans_lt v.value_lt_integerDigits)
  by_contra below
  rcases lt_or_ge v.shortest.exponent k with finer | coarser
  · -- the power would be a point of the next coarser grid
    have power : v.Rounds (10 ^ k) :=
      rounds.between (rounds_value positive) (not_le.mp below).le reached
    refine coarsest (by omega) (10 ^ (k - (v.shortest.exponent + 1)).toNat) ?_
    rw [Nat.cast_pow, Nat.cast_ofNat, ← zpow_natCast, ← zpow_add₀ (by norm_num),
      show ((k - (v.shortest.exponent + 1)).toNat : Int) + (v.shortest.exponent + 1) = k by omega]
    exact power
  · refine below ?_
    calc (10 : ℚ) ^ k ≤ 10 ^ v.shortest.exponent := zpow_le_zpow_right₀ ten.le coarser
      _ ≤ v.shortest.digits * 10 ^ v.shortest.exponent :=
        le_mul_of_one_le_left (ten_zpow_pos _).le
          (by exact_mod_cast shortest_digits_pos positive)

end Magnitude

end PolishCalc.Decimal
