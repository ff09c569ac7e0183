import PolishCalc.Proofs.Decimal.Places
import PolishCalc.Proofs.Decimal.Shape

/-!
# The ways to write a value

Without a number of places a value is written in one of three ways: an integer with one place, any
other number of middling size with the places that it has, and a very small or large one with an
exponent, whose text is put into its final form afterwards. The layouts of the shortest digits come
to the same texts.

* **integers** — the shortest decimal of an integer is the integer (`Magnitude.shortest_of_integer`),
  so that it is written as with one place (`resultLayout.shortest_eq_pointed`). The shortest decimal
  of any other number has places (`Magnitude.shortest_exponent_neg`);
* **exponents** — the mark of an exponent is found in the text, and a fraction is put before it if
  there is none (`Numeral.remarked_exponential`);
* **values** — `formatValue_ways` puts the three ways together.
-/

namespace PolishCalc

namespace Decimal

/-! ## Integers -/

/-- An integer is a multiple of every power of the base that is at most one. -/
theorem mul_pow_mul_zpow {base : ℚ} (nonzero : base ≠ 0) (n : ℚ) {e : Int} (small : e ≤ 0) :
    n * base ^ (-e).toNat * base ^ e = n := by
  obtain ⟨k, rfl⟩ := Int.exists_eq_neg_ofNat small
  rw [neg_neg, Int.toNat_natCast, zpow_neg, zpow_natCast, mul_assoc,
    mul_inv_cancel₀ (pow_ne_zero k nonzero), mul_one]

/-- A decimal without places is an integer. -/
theorem Numeral.value_eq_natCast {d : Numeral} (coarse : 0 ≤ d.exponent) :
    d.value = (d.digits * tenTo d.exponent.toNat : Nat) := by
  obtain ⟨k, exponent⟩ := Int.eq_ofNat_of_zero_le coarse
  rw [value, exponent, Int.toNat_natCast, zpow_natCast, Nat.cast_mul, cast_tenTo]

namespace Magnitude

variable {v : Magnitude}

/-- Magnitudes below ten millions have a unit that is at most one. -/
theorem Canonical.exponent_nonpos (canonical : v.Canonical) (below : v.value < 10 ^ (7 : Int)) :
    v.exponent ≤ 0 := by
  by_contra large
  have reached : (2 : ℚ) ^ (53 : Int) ≤ v.value :=
    (zpow_le_zpow_right₀ one_le_two (by omega)).trans (canonical.le_value (by omega))
  exact absurd (reached.trans_lt below) (by norm_num)

/-- Of the multiples of its unit only the magnitude itself rounds to it. -/
theorem Rounds.eq_mantissa (positive : 0 < v.mantissa) {n : Nat}
    (rounds : v.Rounds (n * 2 ^ v.exponent)) : n = v.mantissa := by
  have near := (rounds.near positive).1
  rw [mul_div_assoc, div_self (two_zpow_pos _).ne', mul_one] at near
  obtain ⟨low, high⟩ := abs_le.mp near
  have above : n < v.mantissa + 1 := by exact_mod_cast (by linarith : (n : ℚ) < v.mantissa + 1)
  have below : v.mantissa < n + 1 := by exact_mod_cast (by linarith : (v.mantissa : ℚ) < n + 1)
  omega

/-- An integer that rounds to a magnitude is the magnitude, if that has a unit of at most one. -/
theorem Rounds.value_eq (positive : 0 < v.mantissa) (small : v.exponent ≤ 0) {n : Nat}
    (rounds : v.Rounds n) : v.value = n := by
  have multiple : ((n * 2 ^ (-v.exponent).toNat : Nat) : ℚ) * 2 ^ v.exponent = n := by
    push_cast
    exact mul_pow_mul_zpow two_ne_zero n small
  rw [← multiple] at rounds
  rw [value, ← rounds.eq_mantissa positive, multiple]

section Small

variable (positive : 0 < v.mantissa) (small : v.exponent ≤ 0)
include positive small

/-- The shortest decimal of an integer is the integer. -/
theorem shortest_of_integer {n : Nat} (integer : v.value = n) :
    0 ≤ v.shortest.exponent ∧ v.shortest.digits * tenTo v.shortest.exponent.toNat = n := by
  obtain ⟨rounds, -, exponent_le, coarsest⟩ := found_shortest positive
  have coarse : 0 ≤ v.shortest.exponent := by
    by_contra fine
    -- the integer would be a point of the next coarser grid
    refine coarsest (by omega) (n * 10 ^ (-(v.shortest.exponent + 1)).toNat) ?_
    push_cast
    rw [mul_pow_mul_zpow (by norm_num) (n : ℚ) (by omega), ← integer]
    exact rounds_value positive
  refine ⟨coarse, ?_⟩
  rw [Numeral.value_eq_natCast coarse] at rounds
  exact_mod_cast (rounds.value_eq positive small).symm.trans integer

/-- The shortest decimal of any other number has places. -/
theorem shortest_exponent_neg (fractional : ∀ n : Nat, v.value ≠ n) : v.shortest.exponent < 0 := by
  by_contra coarse
  have rounds := (found_shortest positive).rounds
  rw [Numeral.value_eq_natCast (by omega)] at rounds
  exact fractional _ (rounds.value_eq positive small)

end Small

theorem fixed_one_of_integer {n : Nat} (integer : v.value = n) : v.fixed 1 = 10 * n := by
  have scaled : v.value / 10 ^ (-((1 : Nat) : Int)) = (10 * n : Nat) := by
    rw [integer, ten_zpow_neg, div_inv_eq_mul]
    push_cast
    ring
  have exact_value : |((10 * n : Nat) : ℚ) - (10 * n : Nat)| = 0 := by rw [sub_self, abs_zero]
  rw [fixed_eq, scaled]
  refine roundEven_eq (Nat.cast_nonneg _) ?_ fun tie => ?_
  · rw [exact_value]
    norm_num
  · rw [exact_value] at tie
    norm_num at tie

end Magnitude

theorem paddedDigits_ten_mul (n : Nat) : paddedDigits (10 * n) 1 = digitsOf n ++ ['0'] := by
  rcases n.eq_zero_or_pos with rfl | positive
  · rfl
  · have split : digitsOf (10 * n) = digitsOf n ++ ['0'] := by
      rw [digitsOf, Nat.toDigits_of_base_le (by decide) (by omega), Nat.mul_mod_right,
        Nat.mul_div_cancel_left _ (by decide)]
      rfl
    have length := List.length_pos_iff.mpr (digitsOf_ne_nil n)
    have unpadded : 1 + 1 - (digitsOf (10 * n)).length = 0 := by
      rw [split, List.length_append, List.length_singleton]
      omega
    rw [paddedDigits, unpadded, split]
    rfl

/-- An integer with one place. -/
theorem pointed_ten_mul (n : Nat) : pointed (10 * n) 1 = digitsOf n ++ ['.', '0'] := by
  rw [pointed_eq, paddedDigits_ten_mul, List.length_append, List.length_singleton,
    Nat.add_sub_cancel, List.take_left, List.drop_left]
  rfl

namespace Numeral

/-- A decimal with the places that it has, and with a point only if there are any. -/
def displayed (d : Numeral) : List Char :=
  pointed (d.digits * tenTo d.exponent.toNat) (-d.exponent).toNat

theorem plain_eq_displayed {d : Numeral} (fine : d.exponent < 0) : d.plain = d.displayed := by
  have none : d.exponent.toNat = 0 := by omega
  rw [plain, if_neg (by omega), displayed, none, tenTo, Nat.mul_one]

/-! ## Exponents -/

/-- A decimal as one digit and an exponent, with a point only if more digits follow the first. -/
def exponential (d : Numeral) : List Char :=
  let digits := digitsOf d.digits
  let fraction := digits.drop 1
  digits.take 1 ++ (if fraction.isEmpty then [] else '.' :: fraction) ++
    'e' :: signedDigits (d.exponent + (digits.length - 1 : Nat))

/-- A text with the final mark of its exponent, and with a fraction before it. -/
def remarked (text : List Char) : List Char :=
  let mantissa := text.takeWhile (· != 'e')
  match text.dropWhile (· != 'e') with
  | [] => text
  | _ :: exponent =>
    (if '.' ∈ mantissa then mantissa else mantissa ++ ['.', '0']) ++ 'E' :: exponent

theorem remarked_eq {mantissa : List Char} (unmarked : 'e' ∉ mantissa) (exponent : List Char) :
    remarked (mantissa ++ 'e' :: exponent) =
      (if '.' ∈ mantissa then mantissa else mantissa ++ ['.', '0']) ++ 'E' :: exponent := by
  have each : ∀ c ∈ mantissa, (c != 'e') = true := by
    intro c member
    rw [bne_iff_ne]
    rintro rfl
    exact unmarked member
  have before : (mantissa ++ 'e' :: exponent).takeWhile (· != 'e') = mantissa := by
    rw [List.takeWhile_append_of_pos each]
    exact List.append_nil mantissa
  have behind : (mantissa ++ 'e' :: exponent).dropWhile (· != 'e') = 'e' :: exponent := by
    rw [List.dropWhile_append_of_pos each]
    rfl
  rw [remarked, before, behind]

/-- The text with its final mark is the layout with an exponent. -/
theorem remarked_exponential (negative : Bool) (d : Numeral) :
    remarked (Layout.sign negative ++ d.exponential) =
      Layout.sign negative ++ d.scientific 'E' := by
  obtain ⟨digit, rest, digits⟩ := List.exists_cons_of_ne_nil (digitsOf_ne_nil d.digits)
  have all : ∀ c ∈ digit :: rest, c.isDigit = true := digits ▸ isDigit_digitsOf d.digits
  have absent {mark : Char} (digitless : mark.isDigit = false) (signless : mark ≠ '-') :
      mark ∉ Layout.sign negative ++ digit :: rest := by
    rw [List.mem_append, not_or]
    refine ⟨?_, not_mem_of_isDigit all digitless⟩
    cases negative with
    | true => exact fun member => signless (List.mem_singleton.mp member)
    | false => exact List.not_mem_nil
  have unmarked := absent (rfl : 'e'.isDigit = false) (by decide)
  rw [exponential, scientific, digits]
  cases rest with
  | nil =>
      have pointless := absent (rfl : '.'.isDigit = false) (by decide)
      have marked := remarked_eq unmarked (signedDigits (d.exponent + (0 : Nat)))
      rw [if_neg pointless, List.append_assoc, List.append_assoc, List.append_assoc] at marked
      exact marked
  | cons c rest =>
      have unmarked : 'e' ∉ Layout.sign negative ++ digit :: '.' :: c :: rest := by
        simp only [List.mem_append, List.mem_cons, not_or] at unmarked ⊢
        exact ⟨unmarked.1, unmarked.2.1, by decide, unmarked.2.2⟩
      have pointed : '.' ∈ Layout.sign negative ++ digit :: '.' :: c :: rest := by simp
      have marked := remarked_eq unmarked (signedDigits (d.exponent + (rest.length + 1 : Nat)))
      rw [if_pos pointed, List.append_assoc, List.append_assoc] at marked
      exact marked

end Numeral

end Decimal

open Decimal

/-! ## Values -/

namespace resultLayout

variable {v : Magnitude} (moderate : v.IsModerate) (canonical : v.Canonical)
include moderate canonical

/-- An integer is written as with one place. -/
theorem shortest_eq_pointed {n : Nat} (integer : v.value = n) :
    resultLayout.shortest v = pointed (v.fixed 1) 1 := by
  rw [Magnitude.fixed_one_of_integer integer, pointed_ten_mul]
  rcases v.mantissa.eq_zero_or_pos with zero | positive
  · have none : n = 0 := by
      rw [(Magnitude.value_eq_zero_iff v).mpr zero] at integer
      exact_mod_cast integer.symm
    rw [Layout.shortest, if_pos zero, none]
    rfl
  · obtain ⟨-, below⟩ := moderate.resolve_left positive.ne'
    obtain ⟨coarse, digits⟩ :=
      Magnitude.shortest_of_integer positive (canonical.exponent_nonpos below) integer
    rw [shortest_eq_plain positive moderate, Numeral.plain, if_pos coarse, digits]

/-- Any other number is written with the places that it has. -/
theorem shortest_eq_displayed (fractional : ∀ n : Nat, v.value ≠ n) :
    resultLayout.shortest v = v.shortest.displayed := by
  have positive : 0 < v.mantissa := by
    refine Nat.pos_of_ne_zero fun zero => fractional 0 ?_
    rw [(Magnitude.value_eq_zero_iff v).mpr zero, Nat.cast_zero]
  obtain ⟨-, below⟩ := moderate.resolve_left positive.ne'
  rw [shortest_eq_plain positive moderate, Numeral.plain_eq_displayed
    (Magnitude.shortest_exponent_neg positive (canonical.exponent_nonpos below) fractional)]

end resultLayout

/-- The three ways to write a finite value. If it is zero or, as a float, at least a thousandth and
below ten millions, then an integer is written as with one place, and any other number with the
places of its shortest digits. Otherwise it is written with an exponent, whose mark is changed and
before which there is a fraction. -/
theorem formatValue_ways {value : Float} {negative : Bool} {v : Magnitude}
    (number : Number.ofFloat value = .finite negative v) :
    let moderate := (value == 0.0) = true ∨ (1e-3 ≤ value.abs ∧ value.abs < 1e7)
    (moderate → (∃ n : Nat, v.value = n) → formatValue value none = formatValue value (some 1)) ∧
      (moderate → (¬ ∃ n : Nat, v.value = n) →
        formatValue value none =
          some (String.ofList (Layout.sign negative ++ v.shortest.displayed))) ∧
      (¬ moderate →
        formatValue value none = some (String.ofList
          (Numeral.remarked (Layout.sign negative ++ v.shortest.exponential)))) := by
  have canonical := Number.canonical_of_ofFloat number
  have text : formatValue value none =
      some (String.ofList (Layout.sign negative ++ resultLayout.shortest v)) := by
    rw [formatValue, number]
    rfl
  rw [isModerate_iff number, text]
  refine ⟨?_, ?_, ?_⟩
  · rintro moderate ⟨n, integer⟩
    rw [formatValue_fixed number (by decide),
      resultLayout.shortest_eq_pointed moderate canonical integer]
  · intro moderate fractional
    rw [resultLayout.shortest_eq_displayed moderate canonical (not_exists.mp fractional)]
  · intro extreme
    have positive : 0 < v.mantissa := Nat.pos_of_ne_zero fun zero => extreme (.inl zero)
    rw [Numeral.remarked_exponential, resultLayout.shortest_eq_scientific positive extreme]

end PolishCalc
