import Mathlib
import PolishCalc.Proofs.Decimal.Value

/-!
# Floats and their exact values

The exact reading of the bits of a float agrees with the logical model that the operations on floats
have.

* **fields** — 64 bits are a sign, a biased exponent and a fraction, and are read as such
  (`Number.ofBits_joinFields`); unless they are those of a NaN the number gives them back
  (`Number.bits_ofBits`);
* **model** — a float unpacks to the number that its bits say (`Number.unpack_eq`), so its status,
  its absolute value and its order are those of the number (`Number.exists_ofFloat_of_isFinite`,
  `Number.ofFloat_abs`, `Number.float_le_iff`, `Number.float_lt_iff`, `Number.float_beq_zero_iff`).
-/

namespace PolishCalc.Decimal

open Float.Model (Format UnpackedFloat)

/-! ## Fields -/

/-- The bit of a sign. -/
def signBits (negative : Bool) : Nat :=
  negative.toNat * 2 ^ 63

/-- The bits of a number with these fields. -/
def joinFields (negative : Bool) (biased fraction : Nat) : Nat :=
  signBits negative + biased * 2 ^ 52 + fraction

theorem exists_joinFields {bits : Nat} (fits : bits < 2 ^ 64) :
    ∃ negative biased fraction, biased < 2 ^ 11 ∧ fraction < 2 ^ 52 ∧
      bits = joinFields negative biased fraction := by
  refine ⟨decide (2 ^ 63 ≤ bits), bits / 2 ^ 52 % 2 ^ 11, bits % 2 ^ 52, by omega, by omega, ?_⟩
  rw [joinFields, signBits]
  by_cases sign : 2 ^ 63 ≤ bits
  · rw [decide_eq_true sign, Bool.toNat_true]
    omega
  · rw [decide_eq_false sign, Bool.toNat_false]
    omega

section Fields

variable (negative : Bool) {biased fraction : Nat}

theorem joinFields_mod (biased : Nat) (short : fraction < 2 ^ 52) :
    joinFields negative biased fraction % 2 ^ 52 = fraction := by
  rw [joinFields, signBits]
  omega

theorem joinFields_div_mod (exponent : biased < 2 ^ 11) (short : fraction < 2 ^ 52) :
    joinFields negative biased fraction / 2 ^ 52 % 2 ^ 11 = biased := by
  rw [joinFields, signBits]
  omega

theorem joinFields_sign (exponent : biased < 2 ^ 11) (short : fraction < 2 ^ 52) :
    joinFields negative biased fraction / 2 ^ 63 % 2 = negative.toNat := by
  have := negative.toNat_lt
  rw [joinFields, signBits]
  omega

end Fields

namespace Number

/-- The bits of a number; a NaN has the one pattern that the model of floats gives it. -/
def bits : Number → Nat
  | .nan => joinFields false 2047 (2 ^ 51)
  | .infinite negative => joinFields negative 2047 0
  | .finite negative v => signBits negative + v.bits

theorem ofBits_joinFields (negative : Bool) {biased fraction : Nat} (exponent : biased < 2 ^ 11)
    (short : fraction < 2 ^ 52) :
    ofBits (joinFields negative biased fraction) =
      if biased = 2047 then if fraction = 0 then .infinite negative else .nan
      else .finite negative (Magnitude.ofFields biased fraction) := by
  have fields : ∀ bits, ofBits bits =
      if bits / 2 ^ 52 % 2 ^ 11 + 1 = 2 ^ 11 then
        if bits % 2 ^ 52 = 0 then .infinite (bits / 2 ^ 52 / 2 ^ 11 % 2 == 1) else .nan
      else .finite (bits / 2 ^ 52 / 2 ^ 11 % 2 == 1)
        (Magnitude.ofFields (bits / 2 ^ 52 % 2 ^ 11) (bits % 2 ^ 52)) := fun _ => rfl
  have sign : (negative.toNat == 1) = negative := by cases negative <;> rfl
  rw [fields, Nat.div_div_eq_div_mul, ← Nat.pow_add, joinFields_mod negative biased short,
    joinFields_div_mod negative exponent short, joinFields_sign negative exponent short, sign]
  simp only [show biased + 1 = 2 ^ 11 ↔ biased = 2047 by omega]

theorem bits_ofBits {bits : Nat} (fits : bits < 2 ^ 64) (number : ofBits bits ≠ .nan) :
    (ofBits bits).bits = bits := by
  obtain ⟨negative, biased, fraction, exponent, short, rfl⟩ := exists_joinFields fits
  rw [ofBits_joinFields negative exponent short] at number ⊢
  by_cases largest : biased = 2047
  · rw [if_pos largest] at number ⊢
    by_cases zero : fraction = 0
    · rw [if_pos zero, Number.bits, largest, zero]
    · exact absurd (if_neg zero) number
  · rw [if_neg largest, Number.bits, Magnitude.bits_ofFields, joinFields, Nat.add_assoc]

theorem exists_fields_of_finite {bits : Nat} (fits : bits < 2 ^ 64) {negative : Bool}
    {v : Magnitude} (number : ofBits bits = .finite negative v) :
    ∃ biased fraction, biased < 2047 ∧ fraction < 2 ^ 52 ∧
      v = Magnitude.ofFields biased fraction := by
  obtain ⟨sign, biased, fraction, exponent, short, rfl⟩ := exists_joinFields fits
  rw [ofBits_joinFields sign exponent short] at number
  by_cases largest : biased = 2047
  · rw [if_pos largest] at number
    split at number <;> cases number
  · rw [if_neg largest] at number
    obtain ⟨-, rfl⟩ := Number.finite.inj number
    exact ⟨biased, fraction, by omega, short, rfl⟩

/-! ## The model of floats -/

/-- The sign that the model has. -/
def modelSign (negative : Bool) : UnpackedFloat.Sign :=
  if negative then .negative else .positive

/-- The number as the model has it, with zero apart from the other finite numbers. -/
def unpacked : Number → UnpackedFloat
  | .nan => .notANumber
  | .infinite negative => .infinity (modelSign negative)
  | .finite negative v =>
    if positive : 0 < v.mantissa then
      .finite (modelSign negative) v.mantissa v.exponent positive
    else
      .zero (modelSign negative)

theorem unpacked_positive (negative : Bool) {mantissa : Nat} (exponent : Int)
    (positive : 0 < mantissa) :
    (finite negative ⟨mantissa, exponent⟩).unpacked =
      .finite (modelSign negative) mantissa exponent positive :=
  dif_pos positive

theorem unpacked_zero (negative : Bool) (exponent : Int) :
    (finite negative ⟨0, exponent⟩).unpacked = .zero (modelSign negative) :=
  rfl

section Model

variable (bits : BitVec Format.binary64.numBits)

theorem toNat_unpackMantissa :
    (UnpackedFloat.unpackMantissa bits).toNat = bits.toNat % 2 ^ 52 := by
  rw [UnpackedFloat.unpackMantissa, BitVec.toNat_cast, BitVec.extractLsb_toNat]
  rfl

theorem toNat_unpackExponent :
    (UnpackedFloat.unpackExponent bits).toNat = bits.toNat / 2 ^ 52 % 2 ^ 11 := by
  rw [UnpackedFloat.unpackExponent, BitVec.toNat_cast, BitVec.extractLsb_toNat,
    Nat.shiftRight_eq_div_pow]
  rfl

theorem toNat_unpackSign : (UnpackedFloat.unpackSign bits).toNat = bits.toNat / 2 ^ 63 % 2 := by
  rw [UnpackedFloat.unpackSign, BitVec.toNat_cast, BitVec.extractLsb_toNat,
    Nat.shiftRight_eq_div_pow]
  rfl

theorem unpack_eq : UnpackedFloat.unpack Format.binary64 bits = (ofBits bits.toNat).unpacked := by
  obtain ⟨negative, biased, fraction, exponent, short, fields⟩ := exists_joinFields bits.isLt
  have mantissa := toNat_unpackMantissa bits
  have upper := toNat_unpackExponent bits
  have sign := toNat_unpackSign bits
  rw [fields, joinFields_mod negative biased short] at mantissa
  rw [fields, joinFields_div_mod negative exponent short] at upper
  rw [fields, joinFields_sign negative exponent short] at sign
  have signed : UnpackedFloat.Sign.ofBitVec (UnpackedFloat.unpackSign bits) =
      modelSign negative := by
    cases negative with
    | false => rw [BitVec.eq_of_toNat_eq (y := 0#1) sign]; rfl
    | true => rw [BitVec.eq_of_toNat_eq (y := 1#1) sign]; rfl
  have fractionZero : UnpackedFloat.unpackMantissa bits = 0#52 ↔ fraction = 0 := by
    rw [← BitVec.toNat_inj, mantissa, BitVec.toNat_zero]
  have biasedZero : UnpackedFloat.unpackExponent bits = 0#11 ↔ biased = 0 := by
    rw [← BitVec.toNat_inj, upper, BitVec.toNat_zero]
  have biasedLargest : UnpackedFloat.unpackExponent bits = -1#11 ↔ biased = 2047 := by
    rw [← BitVec.toNat_inj, upper, show (-1#11).toNat = 2047 by decide]
  rw [fields, ofBits_joinFields negative exponent short, UnpackedFloat.unpack]
  by_cases largest : biased = 2047
  · rw [if_pos largest, if_pos (biasedLargest.mpr largest)]
    by_cases zero : fraction = 0
    · rw [if_pos zero, if_pos (fractionZero.mpr zero), signed, unpacked]
    · rw [if_neg zero, if_neg (fractionZero.not.mpr zero), unpacked]
  · rw [if_neg largest, if_neg (biasedLargest.not.mpr largest), Magnitude.ofFields_eq]
    by_cases subnormal : biased = 0
    · rw [if_pos subnormal, if_pos (biasedZero.mpr subnormal)]
      by_cases zero : fraction = 0
      · rw [dif_pos (fractionZero.mpr zero), signed, zero, unpacked_zero]
      · rw [dif_neg (fractionZero.not.mpr zero), unpacked_positive _ _ (Nat.pos_of_ne_zero zero)]
        simp only [signed, mantissa, upper, subnormal]
        rfl
    · have leading : (1#1 ++ UnpackedFloat.unpackMantissa bits).toNat = 2 ^ 52 + fraction := by
        rw [BitVec.toNat_append, ← Nat.shiftLeft_add_eq_or_of_lt (BitVec.isLt _), mantissa]
        rfl
      have unbiased : (biased : Int) - (1023 + 52) = -1074 + (biased - 1 : Nat) := by omega
      rw [if_neg subnormal, if_neg (biasedZero.not.mpr subnormal),
        unpacked_positive _ _ (by omega), ← unbiased]
      simp only [signed, upper, leading]
      rfl

end Model

/-- Three fields side by side, with the sign of a positive number. -/
theorem toNat_packComponents (e : BitVec 11) (m : BitVec 52) :
    (UnpackedFloat.packComponents Format.binary64 .positive e m).toNat =
      joinFields false e.toNat m.toNat := by
  show (0#1 ++ e ++ m).toNat = _
  rw [BitVec.toNat_append, BitVec.toNat_append, ← Nat.shiftLeft_add_eq_or_of_lt m.isLt,
    Nat.shiftLeft_eq, joinFields, signBits]
  simp

/-- A positive number is packed into its fields. -/
theorem toNat_pack {biased fraction : Nat} (exponent : biased < 2047) (short : fraction < 2 ^ 52) :
    (UnpackedFloat.pack Format.binary64
      (finite false (Magnitude.ofFields biased fraction)).unpacked).toNat =
        joinFields false biased fraction := by
  -- packing tells normal numbers from subnormal ones by the width of the mantissa
  rw [Magnitude.ofFields_eq]
  by_cases subnormal : biased = 0
  · rw [if_pos subnormal, subnormal]
    by_cases zero : fraction = 0
    · rw [zero, unpacked_zero]
      rfl
    · have lower : ¬ fraction.log2 + 1 = Format.binary64.mantissaBits := by
        have := (Nat.log2_lt zero).mpr short
        show ¬ fraction.log2 + 1 = 53
        omega
      rw [unpacked_positive _ _ (Nat.pos_of_ne_zero zero), UnpackedFloat.pack]
      simp only [if_neg lower]
      rw [if_neg (by decide), modelSign, if_neg Bool.false_ne_true, toNat_packComponents]
      show joinFields false 0 (fraction % 2 ^ 52) = _
      rw [Nat.mod_eq_of_lt short]
  · have full : (2 ^ 52 + fraction).log2 + 1 = Format.binary64.mantissaBits := by
      have : (2 ^ 52 + fraction).log2 = 52 := by
        rw [Nat.log2_eq_iff (by omega)]
        omega
      rw [this]
      rfl
    have rebiased : (-1074 + ((biased - 1 : Nat) : Int) + Format.binary64.exponentBias +
        (52 : Nat)).toNat = biased := by
      show (-1074 + ((biased - 1 : Nat) : Int) + (1023 : Nat) + (52 : Nat)).toNat = biased
      omega
    rw [if_neg subnormal, unpacked_positive _ _ (by omega), UnpackedFloat.pack]
    simp only [if_pos full]
    rw [rebiased, if_neg (by show ¬ 2 ^ 11 ≤ biased + 1; omega), modelSign,
      if_neg Bool.false_ne_true, toNat_packComponents]
    show joinFields false (biased % 2 ^ 11) ((2 ^ 52 + fraction) % 2 ^ 52) = _
    rw [Nat.add_mod_left, Nat.mod_eq_of_lt short, Nat.mod_eq_of_lt (by omega)]

end Number

/-! ## Floats -/

namespace Number

variable {value : Float} {negative : Bool} {v : Magnitude}

theorem unpack_toModel (value : Float) : value.toModel.unpack = (ofFloat value).unpacked :=
  unpack_eq value.toModel.toBits.toBitVec

theorem isNaN_iff (value : Float) : value.isNaN = true ↔ ofFloat value = .nan := by
  show value.toModel.unpack.isNaN = true ↔ _
  rw [unpack_toModel]
  cases ofFloat value with
  | nan => exact iff_of_true rfl rfl
  | infinite negative => exact iff_of_false Bool.false_ne_true Number.noConfusion
  | finite negative v =>
      refine iff_of_false ?_ Number.noConfusion
      rw [unpacked]
      split <;> exact Bool.false_ne_true

theorem exists_ofFloat_of_isFinite (finite : value.isFinite = true) :
    ∃ negative v, ofFloat value = .finite negative v := by
  have unpacked : (ofFloat value).unpacked.isFinite = true := by
    rw [← unpack_toModel]
    exact finite
  cases number : ofFloat value with
  | nan => rw [number] at unpacked; cases unpacked
  | infinite negative => rw [number] at unpacked; cases unpacked
  | finite negative v => exact ⟨negative, v, rfl⟩

/-- The bits of a float are those of its number. -/
theorem bits_ofFloat (value : Float) (number : value.isNaN = false) :
    (ofFloat value).bits = value.toBits.toNat :=
  bits_ofBits value.toBits.toNat_lt fun nan =>
    absurd ((isNaN_iff value).mpr nan) (by rw [number]; exact Bool.false_ne_true)

theorem toNat_toBits (number : ofFloat value = .finite negative v) :
    value.toBits.toNat = signBits negative + v.bits := by
  have notNan : value.isNaN = false := by
    rw [Bool.eq_false_iff, Ne, isNaN_iff, number]
    exact Number.noConfusion
  rw [← bits_ofFloat value notNan, number, bits]

theorem canonical_of_ofFloat (number : ofFloat value = .finite negative v) : v.Canonical := by
  obtain ⟨biased, fraction, exponent, short, rfl⟩ :=
    exists_fields_of_finite value.toBits.toNat_lt number
  exact Magnitude.canonical_ofFields exponent short

theorem abs_unpacked (negative : Bool) (v : Magnitude) :
    (finite negative v).unpacked.abs = (finite false v).unpacked := by
  obtain ⟨mantissa, exponent⟩ := v
  rcases mantissa.eq_zero_or_pos with rfl | positive
  · rfl
  · rw [unpacked_positive _ _ positive, unpacked_positive _ _ positive]
    rfl

/-- The absolute value of a float has its magnitude. -/
theorem ofFloat_abs (number : ofFloat value = .finite negative v) :
    ofFloat value.abs = .finite false v := by
  obtain ⟨biased, fraction, exponent, short, rfl⟩ :=
    exists_fields_of_finite value.toBits.toNat_lt number
  have packed : value.abs.toBits.toNat = joinFields false biased fraction := by
    show (UnpackedFloat.pack Format.binary64 value.toModel.unpack.abs).toNat = _
    rw [unpack_toModel, number, abs_unpacked, toNat_pack exponent short]
  rw [ofFloat, packed, ofBits_joinFields false (by omega) short, if_neg (by omega)]

/-- Numbers are compared by the values of their magnitudes, with their signs. -/
theorem compare_unpacked {w : Magnitude} {negative negative' : Bool} (canonical : v.Canonical)
    (other : w.Canonical) :
    (finite negative v).unpacked.compare (finite negative' w).unpacked =
      some (compare (signed negative v.value) (signed negative' w.value)) := by
  have magnitudes := canonical.compare_value other
  obtain ⟨mantissa, exponent⟩ := v
  obtain ⟨mantissa', exponent'⟩ := w
  have zero : ∀ sign e, signed sign (Magnitude.mk 0 e).value = 0 := by
    intro sign e
    rw [(Magnitude.value_eq_zero_iff _).mpr rfl, signed_zero]
  rcases mantissa.eq_zero_or_pos with rfl | positive
  · rcases mantissa'.eq_zero_or_pos with rfl | positive'
    · rw [zero, zero, compare_eq_iff_eq.mpr rfl]
      rfl
    · have above := Magnitude.value_pos (v := ⟨mantissa', exponent'⟩) positive'
      rw [zero, unpacked_zero, unpacked_positive _ _ positive']
      cases negative' with
      | false => rw [signed_false, compare_lt_iff_lt.mpr above]; rfl
      | true => rw [signed_true, compare_gt_iff_gt.mpr (neg_neg_of_pos above)]; rfl
  · have above := Magnitude.value_pos (v := ⟨mantissa, exponent⟩) positive
    rcases mantissa'.eq_zero_or_pos with rfl | positive'
    · rw [zero, unpacked_zero, unpacked_positive _ _ positive]
      cases negative with
      | false => rw [signed_false, compare_gt_iff_gt.mpr above]; rfl
      | true => rw [signed_true, compare_lt_iff_lt.mpr (neg_neg_of_pos above)]; rfl
    · have above' := Magnitude.value_pos (v := ⟨mantissa', exponent'⟩) positive'
      rw [unpacked_positive _ _ positive, unpacked_positive _ _ positive']
      cases negative <;> cases negative'
      case false.false =>
        rw [signed_false, signed_false, ← magnitudes]
        rfl
      case false.true =>
        rw [signed_false, signed_true,
          compare_gt_iff_gt.mpr ((neg_neg_of_pos above').trans above)]
        rfl
      case true.false =>
        rw [signed_false, signed_true,
          compare_lt_iff_lt.mpr ((neg_neg_of_pos above).trans above')]
        rfl
      case true.true =>
        rw [signed_true, signed_true, compare_neg_neg, ← magnitudes]
        rfl

section Order

variable {negative' : Bool} {other : Float} {w : Magnitude}
  (number : ofFloat value = .finite negative v) (number' : ofFloat other = .finite negative' w)

include number number'

theorem compare_toModel :
    value.toModel.unpack.compare other.toModel.unpack =
      some (compare (signed negative v.value) (signed negative' w.value)) := by
  rw [unpack_toModel, unpack_toModel, number, number',
    compare_unpacked (canonical_of_ofFloat number) (canonical_of_ofFloat number')]

theorem float_le_iff :
    value ≤ other ↔ signed negative v.value ≤ signed negative' w.value := by
  show decide (value.toModel ≤ other.toModel) = true ↔ _
  rw [decide_eq_true_iff]
  show (value.toModel.unpack.compare other.toModel.unpack).any (·.isLE) = true ↔ _
  rw [compare_toModel number number', Option.any_some, Ordering.isLE_iff_ne_gt,
    compare_gt_iff_gt, not_lt]

theorem float_lt_iff :
    value < other ↔ signed negative v.value < signed negative' w.value := by
  show decide (value.toModel < other.toModel) = true ↔ _
  rw [decide_eq_true_iff]
  show (value.toModel.unpack.compare other.toModel.unpack == some .lt) = true ↔ _
  rw [compare_toModel number number', beq_iff_eq, Option.some.injEq, compare_lt_iff_lt]

end Order

/-- Both zeros are equal to zero, and no other float is. -/
theorem float_beq_zero_iff (number : ofFloat value = .finite negative v) :
    (value == 0.0) = true ↔ v.mantissa = 0 := by
  have zero : (0.0 : Float).toModel.unpack = .zero .positive := by
    rw [unpack_toModel, show ofFloat 0.0 = .finite false ⟨0, -1074⟩ by decide +kernel]
    rfl
  show (value.toModel.unpack.compare (0.0 : Float).toModel.unpack == some .eq) = true ↔ _
  obtain ⟨mantissa, exponent⟩ := v
  rw [zero, unpack_toModel, number]
  rcases mantissa.eq_zero_or_pos with rfl | positive
  · exact iff_of_true rfl rfl
  · rw [unpacked_positive _ _ positive]
    cases negative <;> exact iff_of_false Bool.false_ne_true positive.ne'

end Number

end PolishCalc.Decimal
