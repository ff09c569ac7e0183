import PolishCalc.Proofs.Decimal.Reading
import PolishCalc.Proofs.Decimal.Shape

/-!
# Values with fixed places

* **rounding** — the number of units of `10 ^ -places` that a magnitude is written with is that of
  the nearest multiple, and of the even one if two are equally near (`Magnitude.isNearest_fixed`);
* **texts** — the digits of that number, with a point before the places, say the multiple
  (`readFixed?_pointed`), and the last digit of an even one is even (`even_getLast?_pointed`);
* **values** — so a finite value is written as the nearest decimal with these places, and a greater
  value as a decimal that is not smaller (`formatValue_places`).
-/

namespace PolishCalc

namespace Decimal

/-! ## Rounding -/

theorem divEven_eq_roundEven (n : Nat) {d : Nat} (positive : 0 < d) :
    divEven n d = roundEven (n / d) := by
  have divisor : (0 : ℚ) < d := Nat.cast_pos.mpr positive
  have rest : (n : ℚ) / d - (n / d : Nat) = (n % d : Nat) / d := by
    rw [sub_eq_iff_eq_add, div_add' _ _ _ divisor.ne', div_left_inj' divisor.ne']
    exact_mod_cast (Nat.mod_add_div' n d).symm
  have less : (n : ℚ) / d - (n / d : Nat) < 1 / 2 ↔ 2 * (n % d) < d := by
    rw [rest, div_lt_div_iff₀ divisor two_pos, one_mul, mul_comm]
    norm_cast
  have more : 1 / 2 < (n : ℚ) / d - (n / d : Nat) ↔ d < 2 * (n % d) := by
    rw [rest, div_lt_div_iff₀ two_pos divisor, one_mul, mul_comm (_ : ℚ) 2]
    norm_cast
  rw [divEven, roundEven, Nat.floor_div_eq_div]
  simp only [less, more]

/-- A power of ten below the point. -/
theorem ten_zpow_neg (places : Nat) : (10 : ℚ) ^ (-(places : Int)) = (10 ^ places)⁻¹ := by
  rw [zpow_neg, zpow_natCast]

theorem Magnitude.fixed_eq (v : Magnitude) (places : Nat) :
    v.fixed places = roundEven (v.value / 10 ^ (-(places : Int))) := by
  rw [fixed, divEven_eq_roundEven _ v.denominator_pos, Nat.cast_mul, cast_tenTo, value_eq_div,
    ten_zpow_neg, div_inv_eq_mul, div_mul_eq_mul_div]

/-- A natural number with a minus sign or without one. -/
def signedInt (negative : Bool) (n : Nat) : Int :=
  if negative then -n else n

theorem signed_natCast_mul (negative : Bool) (n : Nat) (unit : ℚ) :
    signed negative (n * unit) = (signedInt negative n : ℚ) * unit := by
  cases negative with
  | false => rfl
  | true =>
      rw [signed_true, ← neg_mul, signedInt, if_pos rfl]
      push_cast
      rfl

/-- A magnitude with a sign is rounded to the nearest multiple, in case of a tie to the even one. -/
theorem Magnitude.isNearest_fixed (negative : Bool) (v : Magnitude) (places : Nat) :
    IsNearest (10 ^ (-(places : Int))) (signed negative v.value)
      (signedInt negative (v.fixed places)) := by
  have nonneg : 0 ≤ v.value := mul_nonneg (Nat.cast_nonneg _) (two_zpow_pos _).le
  have nearest := isNearest_roundEven (ten_zpow_pos (-(places : Int))) nonneg
  rw [← v.fixed_eq] at nearest
  cases negative with
  | false => exact nearest
  | true => exact nearest.neg

/-! ## Texts -/

/-- A minus sign for a negative number, an integer and exactly so many digits after a point; without
digits there is no point. -/
def IsFixed (negative : Bool) (places : Nat) (text : String) : Prop :=
  ∃ whole fraction, IsWhole whole ∧ (∀ c ∈ fraction, c.isDigit = true) ∧
    fraction.length = places ∧
      text.toList = (if negative then ['-'] else []) ++
        (whole ++ if places = 0 then [] else '.' :: fraction)

/-- The number that a decimal without an exponent says. -/
def readFixed? (text : String) : Option ℚ :=
  let (negative, magnitude) := splitSign text.toList
  (readPoint? magnitude).map (signed negative)

/-- The parts of a number that is written with places. -/
theorem exists_pointed (n places : Nat) :
    ∃ whole fraction, pointed n places = whole ++ (if places = 0 then [] else '.' :: fraction) ∧
      IsWhole whole ∧ (∀ c ∈ fraction, c.isDigit = true) ∧ fraction.length = places ∧
        pointValue whole fraction = n / 10 ^ places := by
  have more := lt_length_paddedDigits n places
  refine ⟨_, _, pointed_eq n places, isWhole_paddedDigits n places, ?_, ?_,
    pointValue_paddedDigits n places⟩
  · intro c member
    exact isDigit_paddedDigits c (List.mem_of_mem_drop member)
  · rw [List.length_drop, Nat.sub_sub_self more.le]

theorem readPoint?_pointed (n places : Nat) :
    readPoint? (pointed n places) = some ((n : ℚ) / 10 ^ places) := by
  obtain ⟨whole, fraction, text, isWhole, digits, length, said⟩ := exists_pointed n places
  rw [text, ← said]
  by_cases none : places = 0
  · have noPoint : '.' ∉ whole := not_mem_of_isDigit isWhole.digits rfl
    obtain rfl : fraction = [] := List.length_eq_zero_iff.mp (length.trans none)
    rw [if_pos none, List.append_nil, readPoint?, takeWhile_unmarked noPoint,
      dropWhile_unmarked noPoint, List.drop_nil, List.append_nil,
      readDigits?_eq isWhole.digits isWhole.nonempty, pointValue, List.append_nil]
    rfl
  · rw [if_neg none]
    exact readPoint?_eq isWhole.digits isWhole.nonempty digits

section Text

variable (negative : Bool) (n places : Nat)

theorem isFixed_pointed :
    IsFixed negative places (String.ofList (Layout.sign negative ++ pointed n places)) := by
  obtain ⟨whole, fraction, text, isWhole, digits, length, -⟩ := exists_pointed n places
  refine ⟨whole, fraction, isWhole, digits, length, ?_⟩
  rw [String.toList_ofList, text]
  rfl

theorem readFixed?_pointed :
    readFixed? (String.ofList (Layout.sign negative ++ pointed n places)) =
      some ((signedInt negative n : ℚ) * 10 ^ (-(places : Int))) := by
  have unsigned : (pointed n places).head? ≠ some '+' ∧ (pointed n places).head? ≠ some '-' := by
    obtain ⟨whole, fraction, text, isWhole, -⟩ := exists_pointed n places
    obtain ⟨digit, rest, rfl⟩ := List.exists_cons_of_ne_nil isWhole.nonempty
    have isDigit := isWhole.digits digit List.mem_cons_self
    rw [text]
    constructor <;> rintro ⟨⟩ <;> cases isDigit
  rw [readFixed?, String.toList_ofList, splitSign_sign negative unsigned]
  simp only
  rw [readPoint?_pointed, Option.map_some, div_eq_mul_inv, ← ten_zpow_neg, signed_natCast_mul]

/-- The last digit of an even number is even. -/
theorem even_getLast?_pointed (even : n % 2 = 0) :
    ∃ c ∈ ['0', '2', '4', '6', '8'],
      (String.ofList (Layout.sign negative ++ pointed n places)).toList.getLast? = some c := by
  have digit : ∀ d < 10, d % 2 = 0 → Nat.digitChar d ∈ ['0', '2', '4', '6', '8'] := by decide
  refine ⟨_, digit (n % 10) (Nat.mod_lt _ (by decide)) (by omega), ?_⟩
  rw [String.toList_ofList, List.getLast?_append, getLast?_pointed]
  rfl

end Text

end Decimal

open Decimal

/-! ## Values -/

/-- The exact value of a finite float; other floats have none. -/
def exactValue (value : Float) : ℚ :=
  match Number.ofFloat value with
  | .finite negative v => signed negative v.value
  | _ => 0

/-- The text says the multiple of `10 ^ -places` nearest to a number. Where another multiple is as
near as this one, its last digit is even. -/
structure SaysNearest (places : Nat) (x : ℚ) (text : String) (said : ℚ) : Prop where
  read : readFixed? text = some said
  multiple : ∃ n : Int, said = n * 10 ^ (-(places : Int))
  closest : ∀ m : Int, |x - said| ≤ |x - m * 10 ^ (-(places : Int))|
  even : ∀ m : Int, m * 10 ^ (-(places : Int)) ≠ said →
    |x - said| = |x - m * 10 ^ (-(places : Int))| →
      ∃ c ∈ ['0', '2', '4', '6', '8'], text.toList.getLast? = some c

section Finite

variable {value : Float} {negative : Bool} {v : Magnitude} {places : Nat}

theorem formatValue_fixed (number : Number.ofFloat value = .finite negative v)
    (within : places ≤ 65535) :
    formatValue value (some places) =
      some (String.ofList (Layout.sign negative ++ pointed (v.fixed places) places)) := by
  rw [formatValue, number]
  exact if_neg (not_lt.mpr within)

theorem exactValue_eq (number : Number.ofFloat value = .finite negative v) :
    exactValue value = signed negative v.value := by
  rw [exactValue, number]

end Finite

theorem Decimal.Magnitude.saysNearest_fixed (negative : Bool) (v : Magnitude) (places : Nat) :
    SaysNearest places (signed negative v.value)
      (String.ofList (Layout.sign negative ++ pointed (v.fixed places) places))
      ((signedInt negative (v.fixed places) : ℚ) * 10 ^ (-(places : Int))) := by
  have nearest := v.isNearest_fixed negative places
  refine ⟨readFixed?_pointed _ _ _, ⟨_, rfl⟩, nearest.closest, fun m other tie => ?_⟩
  have even := nearest.even m (fun same => other (by rw [same])) tie
  have even : v.fixed places % 2 = 0 := by
    rw [signedInt] at even
    split at even <;> omega
  exact even_getLast?_pointed negative _ _ even

/-- A finite value with up to 65535 places is written with exactly these places, and with the minus
sign of its sign bit. The text says the multiple nearest to the exact value, and a greater value is
not written as a smaller decimal. -/
theorem formatValue_places (value : Float) (finite : value.isFinite = true) {places : Nat}
    (within : places ≤ 65535) :
    ∃ text said, formatValue value (some places) = some text ∧
      IsFixed (signBit value) places text ∧ SaysNearest places (exactValue value) text said ∧
      ∀ other : Float, other.isFinite = true → value ≤ other →
        ∃ text' said', formatValue other (some places) = some text' ∧
          readFixed? text' = some said' ∧ said ≤ said' := by
  obtain ⟨negative, v, number⟩ := Number.exists_ofFloat_of_isFinite finite
  rw [signBit_eq number, exactValue_eq number]
  refine ⟨_, _, formatValue_fixed number within, isFixed_pointed _ _ _,
    v.saysNearest_fixed negative places, ?_⟩
  intro other finite' order
  obtain ⟨negative', w, number'⟩ := Number.exists_ofFloat_of_isFinite finite'
  refine ⟨_, _, formatValue_fixed number' within, readFixed?_pointed _ _ _, ?_⟩
  have unit := ten_zpow_pos (-(places : Int))
  have multiples := (v.isNearest_fixed negative places).mono unit
    ((Number.float_le_iff number number').mp order) (w.isNearest_fixed negative' places)
  exact mul_le_mul_of_nonneg_right (Int.cast_le.mpr multiples) unit.le

/-- Without places, -9.5 is as near to -9 as to -10, which has one digit more and is even. A number
above it that is still negative is written as zero with a minus sign. -/
theorem formatValue_places_carry :
    (Float.ofBits 0xC023000000000000).isFinite = true ∧ (0 : Nat) ≤ 65535 ∧
      (Float.ofBits 0xBFD0000000000000).isFinite = true ∧
      Float.ofBits 0xC023000000000000 ≤ Float.ofBits 0xBFD0000000000000 ∧
      ∃ said said', formatValue (Float.ofBits 0xC023000000000000) (some 0) = some "-10" ∧
        IsFixed (signBit (Float.ofBits 0xC023000000000000)) 0 "-10" ∧
        SaysNearest 0 (exactValue (Float.ofBits 0xC023000000000000)) "-10" said ∧
        formatValue (Float.ofBits 0xBFD0000000000000) (some 0) = some "-0" ∧
        readFixed? "-0" = some said' ∧ said ≤ said' := by
  have finite : (Float.ofBits 0xC023000000000000).isFinite = true := by decide +kernel
  have finite' : (Float.ofBits 0xBFD0000000000000).isFinite = true := by decide +kernel
  have order : Float.ofBits 0xC023000000000000 ≤ Float.ofBits 0xBFD0000000000000 := by
    decide +kernel
  have written : formatValue (Float.ofBits 0xC023000000000000) (some 0) = some "-10" := by
    decide +kernel
  have written' : formatValue (Float.ofBits 0xBFD0000000000000) (some 0) = some "-0" := by
    decide +kernel
  have within : (0 : Nat) ≤ 65535 := by decide
  obtain ⟨text, said, formatted, isFixed, nearest, greater⟩ := formatValue_places _ finite within
  obtain ⟨text', said', formatted', read, above⟩ := greater _ finite' order
  obtain rfl := Option.some.inj (formatted.symm.trans written)
  obtain rfl := Option.some.inj (formatted'.symm.trans written')
  exact ⟨finite, within, finite', order, said, said', written, isFixed, nearest, written', read,
    above⟩

end PolishCalc
