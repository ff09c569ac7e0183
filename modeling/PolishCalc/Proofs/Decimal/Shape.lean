import PolishCalc.Report
import PolishCalc.Proofs.Decimal.Binary64
import PolishCalc.Proofs.Decimal.Shortest
import PolishCalc.Proofs.Decimal.Text

/-!
# The two shapes of values

* **bounds** — the float nearest to a thousandth is a bound for the same magnitudes as the number
  itself (`Magnitude.thousandth_le_iff`), and no magnitude below it is written as a thousandth
  (`Magnitude.shortest_value_lt_thousandth`);
* **shapes** — a finite value is plain if it is zero or at least a thousandth and below ten
  millions, and otherwise it has an exponent, which is at least 7 or at most -4
  (`formatValue_shape`).
-/

namespace PolishCalc

namespace Decimal

/-! ## Bounds -/

namespace Magnitude

variable {v : Magnitude}

/-- The magnitude of the float nearest to a thousandth. -/
def thousandth : Magnitude :=
  ⟨4611686018427388, -62⟩

theorem canonical_thousandth : thousandth.Canonical := by
  constructor <;> decide

theorem le_value_thousandth : (10 : ℚ) ^ (-3 : Int) ≤ thousandth.value := by
  rw [value, thousandth]
  norm_num

/-- A thousandth itself rounds to it. -/
theorem rounds_thousandth : thousandth.Rounds (10 ^ (-3 : Int)) := by
  rw [rounds_iff, if_pos (by decide), low_interval (by decide)]
  norm_num [thousandth]

/-- Comparing with the float is comparing with the number. -/
theorem thousandth_le_iff (canonical : v.Canonical) :
    thousandth.value ≤ v.value ↔ (10 : ℚ) ^ (-3 : Int) ≤ v.value := by
  refine ⟨le_value_thousandth.trans, fun reached => ?_⟩
  have positive : 0 < v.mantissa := by
    have := (ten_zpow_pos (-3)).trans_le reached
    rw [value, mul_pos_iff_of_pos_right (two_zpow_pos _)] at this
    exact_mod_cast this
  by_contra below
  have rounds : thousandth.Rounds v.value :=
    rounds_thousandth.between (rounds_value (by decide)) reached (not_le.mp below).le
  have same := (rounds_value positive).eq rounds canonical canonical_thousandth positive (by decide)
  exact below (same ▸ le_refl _)

/-- Below a thousandth no magnitude is written as a thousandth. -/
theorem shortest_value_lt_thousandth (canonical : v.Canonical) (positive : 0 < v.mantissa)
    (below : v.value < 10 ^ (-3 : Int)) : v.shortest.value < 10 ^ (-3 : Int) := by
  by_contra reached
  have rounds : v.Rounds (10 ^ (-3 : Int)) :=
    (rounds_value positive).between (found_shortest positive).rounds below.le (not_lt.mp reached)
  have same := rounds.eq rounds_thousandth canonical canonical_thousandth positive (by decide)
  exact below.not_ge (same ▸ le_value_thousandth)

end Magnitude

/-! ## Shapes -/

/-- A minus sign for a negative number, digits with a point among them and no exponent. -/
def IsPlain (negative : Bool) (text : String) : Prop :=
  ∃ whole fraction, IsWhole whole ∧ IsFraction fraction ∧
    text.toList = (if negative then ['-'] else []) ++ (whole ++ '.' :: fraction)

/-- An integer without a plus sign and without zeros before other digits. -/
def IsInteger (text : List Char) (n : Int) : Prop :=
  ∃ digits, IsWhole digits ∧
    (text = digits ∧ n = ofDigits 10 digits ∨ text = '-' :: digits ∧ n = -(ofDigits 10 digits : Int))

/-- A minus sign for a negative number, one digit other than zero, a point, a fraction and an
exponent that is at least 7 or at most -4. -/
def IsScientific (negative : Bool) (text : String) : Prop :=
  ∃ digit fraction exponent n, digit.isDigit = true ∧ digit ≠ '0' ∧ IsFraction fraction ∧
    IsInteger exponent n ∧ (7 ≤ n ∨ n ≤ -4) ∧
      text.toList =
        (if negative then ['-'] else []) ++ (digit :: '.' :: fraction ++ 'E' :: exponent)

theorem isInteger_signedDigits (n : Int) : IsInteger (Numeral.signedDigits n) n := by
  refine ⟨digitsOf n.natAbs, isWhole_digitsOf _, ?_⟩
  rw [Numeral.signedDigits, ofDigits_digitsOf]
  split
  · exact Or.inr ⟨rfl, by omega⟩
  · exact Or.inl ⟨rfl, by omega⟩

theorem IsPlain.not_isScientific {negative negative' : Bool} {text : String}
    (plain : IsPlain negative text) : ¬ IsScientific negative' text := by
  rintro ⟨digit, fraction, exponent, n, -, -, -, -, -, scientific⟩
  obtain ⟨whole, fraction', isWhole, isFraction, plain⟩ := plain
  have marked : 'E' ∈ text.toList := by
    rw [scientific]
    simp
  rw [plain, List.mem_append] at marked
  rcases marked with sign | body
  · cases negative with
    | true => exact absurd sign (by decide)
    | false => exact absurd sign (by decide)
  · exact exponent_not_mem isWhole isFraction body

end Decimal

open Decimal

/-! ## Values -/

/-- The magnitudes that are written without an exponent. -/
def Decimal.Magnitude.IsModerate (v : Magnitude) : Prop :=
  v.mantissa = 0 ∨ (10 : ℚ) ^ (-3 : Int) ≤ v.value ∧ v.value < 10 ^ (7 : Int)

namespace resultLayout

variable {v : Magnitude}

theorem shortest_eq_plain (positive : 0 < v.mantissa) (moderate : v.IsModerate) :
    resultLayout.shortest v = v.shortest.plain := by
  obtain ⟨reached, below⟩ := moderate.resolve_left positive.ne'
  rw [Layout.shortest, if_neg positive.ne', if_pos]
  rw [Bool.and_eq_true, Bool.not_eq_true', Bool.eq_false_iff, Ne, Magnitude.atLeastPowerOfTen_iff,
    Magnitude.atLeastPowerOfTen_iff]
  exact ⟨reached, not_le.mpr below⟩

theorem shortest_eq_scientific (positive : 0 < v.mantissa) (extreme : ¬ v.IsModerate) :
    resultLayout.shortest v = v.shortest.scientific 'E' := by
  rw [Layout.shortest, if_neg positive.ne', if_neg]
  · rfl
  · rw [Bool.and_eq_true, Bool.not_eq_true', Bool.eq_false_iff, Ne,
      Magnitude.atLeastPowerOfTen_iff, Magnitude.atLeastPowerOfTen_iff]
    exact fun bounds => extreme (Or.inr ⟨bounds.1, not_le.mp bounds.2⟩)

theorem isPlain (negative : Bool) (moderate : v.IsModerate) :
    IsPlain negative (String.ofList (Layout.sign negative ++ resultLayout.shortest v)) := by
  rcases v.mantissa.eq_zero_or_pos with zero | positive
  · refine ⟨['0'], ['0'], isWhole_singleton rfl, isFraction_zero, ?_⟩
    rw [String.toList_ofList, Layout.shortest, if_pos zero]
    rfl
  · obtain ⟨whole, fraction, plain, isWhole, isFraction, -⟩ :=
      Numeral.exists_plain (Magnitude.shortest_digits_mod_ten positive)
    refine ⟨whole, fraction, isWhole, isFraction, ?_⟩
    rw [String.toList_ofList, shortest_eq_plain positive moderate, plain]
    rfl

theorem isScientific (negative : Bool) (canonical : v.Canonical) (extreme : ¬ v.IsModerate) :
    IsScientific negative (String.ofList (Layout.sign negative ++ resultLayout.shortest v)) := by
  have ten : (1 : ℚ) < 10 := by norm_num
  have positive : 0 < v.mantissa := Nat.pos_of_ne_zero fun zero => extreme (Or.inl zero)
  obtain ⟨digit, fraction, n, scientific, isDigit, leading, isFraction, -, low, high⟩ :=
    Numeral.exists_scientific 'E' (Magnitude.shortest_digits_mod_ten positive)
  refine ⟨digit, fraction, _, n, isDigit, leading, isFraction, isInteger_signedDigits n, ?_, ?_⟩
  · rcases lt_or_ge v.value ((10 : ℚ) ^ (-3 : Int)) with small | reached
    · have small := Magnitude.shortest_value_lt_thousandth canonical positive small
      have : n < -3 := (zpow_lt_zpow_iff_right₀ ten).mp (low.trans_lt small)
      exact Or.inr (by omega)
    · have large : (10 : ℚ) ^ (7 : Int) ≤ v.value :=
        not_lt.mp fun below => extreme (Or.inr ⟨reached, below⟩)
      have large := Magnitude.le_value_shortest positive large
      have : 7 < n + 1 := (zpow_lt_zpow_iff_right₀ ten).mp (large.trans_lt high)
      exact Or.inl (by omega)
  · rw [String.toList_ofList, shortest_eq_scientific positive extreme, scientific]
    rfl

end resultLayout

/-- Whether the sign bit of a value is set. -/
def signBit (value : Float) : Bool :=
  2 ^ 63 ≤ value.toBits.toNat

section Finite

variable {value : Float} {negative : Bool} {v : Magnitude}
  (number : Number.ofFloat value = .finite negative v)

include number

theorem signBit_eq : signBit value = negative := by
  have below := (Number.canonical_of_ofFloat number).bits_lt
  rw [signBit, Number.toNat_toBits number, signBits]
  cases negative with
  | true => exact decide_eq_true (by rw [Bool.toNat_true]; omega)
  | false => exact decide_eq_false (by rw [Bool.toNat_false]; omega)

/-- The bounds as floats are the bounds of the exact values. -/
theorem isModerate_iff :
    (value == 0.0) = true ∨ (1e-3 ≤ value.abs ∧ value.abs < 1e7) ↔ v.IsModerate := by
  have low : Number.ofFloat 1e-3 = .finite false Magnitude.thousandth := by decide +kernel
  have high : Number.ofFloat 1e7 = .finite false ⟨5368709120000000, -29⟩ := by decide +kernel
  have tenMillions : (Magnitude.mk 5368709120000000 (-29)).value = 10 ^ (7 : Int) := by
    rw [Magnitude.value]
    norm_num
  have absolute := Number.ofFloat_abs number
  rw [Number.float_beq_zero_iff number, Number.float_le_iff low absolute,
    Number.float_lt_iff absolute high, signed_false, signed_false, signed_false,
    Magnitude.thousandth_le_iff (Number.canonical_of_ofFloat number), tenMillions]
  rfl

end Finite

/-- A finite value is written in one of two shapes. It is plain if it is zero or, as a float, at
least a thousandth and below ten millions, and otherwise it has an exponent; the minus sign is that
of the sign bit. -/
theorem formatValue_shape (value : Float) (finite : value.isFinite = true) :
    ∃ text, formatValue value none = some text ∧
      (IsPlain (signBit value) text ↔
        (value == 0.0) = true ∨ (1e-3 ≤ value.abs ∧ value.abs < 1e7)) ∧
      (IsScientific (signBit value) text ↔
        ¬ ((value == 0.0) = true ∨ (1e-3 ≤ value.abs ∧ value.abs < 1e7))) := by
  obtain ⟨negative, v, number⟩ := Number.exists_ofFloat_of_isFinite finite
  rw [isModerate_iff number, signBit_eq number]
  refine ⟨String.ofList (Layout.sign negative ++ resultLayout.shortest v), ?_, ?_⟩
  · rw [formatValue, number]
    rfl
  · by_cases moderate : v.IsModerate
    · have plain := resultLayout.isPlain negative moderate
      exact ⟨iff_of_true plain moderate,
        iff_of_false plain.not_isScientific (not_not_intro moderate)⟩
    · have scientific := resultLayout.isScientific negative (Number.canonical_of_ofFloat number)
        moderate
      exact ⟨iff_of_false (fun plain => plain.not_isScientific scientific) moderate,
        iff_of_true scientific moderate⟩

/-- The float just below a thousandth has an exponent. -/
theorem formatValue_shape_below_thousandth :
    (Float.ofBits 0x3F50624DD2F1A9FB).isFinite = true ∧
      ∃ text, formatValue (Float.ofBits 0x3F50624DD2F1A9FB) none = some text ∧
        (IsPlain (signBit (Float.ofBits 0x3F50624DD2F1A9FB)) text ↔
          (Float.ofBits 0x3F50624DD2F1A9FB == 0.0) = true ∨
            (1e-3 ≤ (Float.ofBits 0x3F50624DD2F1A9FB).abs ∧
              (Float.ofBits 0x3F50624DD2F1A9FB).abs < 1e7)) ∧
        (IsScientific (signBit (Float.ofBits 0x3F50624DD2F1A9FB)) text ↔
          ¬ ((Float.ofBits 0x3F50624DD2F1A9FB == 0.0) = true ∨
            (1e-3 ≤ (Float.ofBits 0x3F50624DD2F1A9FB).abs ∧
              (Float.ofBits 0x3F50624DD2F1A9FB).abs < 1e7))) :=
  ⟨by decide +kernel, formatValue_shape _ (by decide +kernel)⟩

example : formatValue (Float.ofBits 0x3F50624DD2F1A9FB) none = some "9.999999999999998E-4" := by
  decide +kernel

end PolishCalc
