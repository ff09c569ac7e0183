import PolishCalc.Report
import PolishCalc.Proofs.Decimal.Binary64
import PolishCalc.Proofs.Decimal.Shortest
import PolishCalc.Proofs.Decimal.Text

/-!
# Reading values back

A reader of numbers that knows nothing of how they are written: a text says an exact rational
number, which is rounded to the nearest binary64 number.

* **decimals** — the digits, the point and the exponent of a written magnitude say a number that
  rounds to it (`Layout.exists_readDecimal?`);
* **values** — every value other than NaN is read back from its text with all its bits, so no two
  such values have the same text (`formatValue_faithful`).
-/

namespace PolishCalc

namespace Decimal

/-! ## The reader -/

/-- The number that digits say; there has to be a digit. -/
def readDigits? (text : List Char) : Option Nat :=
  if text.isEmpty || !text.all Char.isDigit then none else some (ofDigits 10 text)

/-- Digits that may have a point among them. -/
def readPoint? (text : List Char) : Option ℚ :=
  let fraction := (text.dropWhile (· != '.')).drop 1
  (readDigits? (text.takeWhile (· != '.') ++ fraction)).map fun n : Nat =>
    (n : ℚ) / 10 ^ fraction.length

/-- The digits of an integer, with a sign before them if need be. -/
def readExponent? (text : List Char) : Option Int :=
  let (negative, digits) := splitSign text
  (readDigits? digits).map fun n : Nat => if negative then -(n : Int) else n

/-- A decimal: digits and a point, and after an `E` the exponent of a power of ten. -/
def readDecimal? (text : List Char) : Option ℚ :=
  let significand := text.takeWhile (· != 'E')
  match text.dropWhile (· != 'E') with
  | [] => readPoint? significand
  | _ :: exponent => do return (← readPoint? significand) * 10 ^ (← readExponent? exponent)

/-- The bits of the binary64 number that a text says: infinity by its name, and any other number
rounded from its exact value. From a certain size on a number rounds to infinity. -/
def readBits? (text : String) : Option Nat :=
  let (negative, magnitude) := splitSign text.toList
  if magnitude = "Infinity".toList then
    some (joinFields negative 2047 0)
  else
    (readDecimal? magnitude).map fun x =>
      signBits negative + min (Magnitude.nearest x).bits (joinFields false 2047 0)

/-! ## Reading what was written -/

section Cut

variable {text : List Char} {mark : Char} (unmarked : mark ∉ text)

include unmarked

theorem ne_mark : ∀ c ∈ text, (c != mark) = true :=
  fun _ member => bne_iff_ne.mpr fun same => unmarked (same ▸ member)

theorem takeWhile_unmarked : text.takeWhile (· != mark) = text :=
  List.takeWhile_eq_self_iff.mpr (ne_mark unmarked)

theorem dropWhile_unmarked : text.dropWhile (· != mark) = [] :=
  List.dropWhile_eq_nil_iff.mpr (ne_mark unmarked)

theorem takeWhile_mark (rest : List Char) :
    (text ++ mark :: rest).takeWhile (· != mark) = text := by
  rw [List.takeWhile_append_of_pos (ne_mark unmarked), List.takeWhile_cons_of_neg (by simp),
    List.append_nil]

theorem dropWhile_mark (rest : List Char) :
    (text ++ mark :: rest).dropWhile (· != mark) = mark :: rest := by
  rw [List.dropWhile_append_of_pos (ne_mark unmarked), List.dropWhile_cons_of_neg (by simp)]

end Cut

theorem readDigits?_eq {text : List Char} (digits : ∀ c ∈ text, c.isDigit = true)
    (nonempty : text ≠ []) : readDigits? text = some (ofDigits 10 text) := by
  have all : text.all Char.isDigit = true := List.all_eq_true.mpr digits
  rw [readDigits?, all, List.isEmpty_eq_false_iff.mpr nonempty]
  rfl

theorem readExponent?_signedDigits (n : Int) :
    readExponent? (Numeral.signedDigits n) = some n := by
  have digits : readDigits? (digitsOf n.natAbs) = some n.natAbs := by
    rw [readDigits?_eq (isDigit_digitsOf _) (digitsOf_ne_nil _), ofDigits_digitsOf]
  rw [Numeral.signedDigits]
  split
  · show (readDigits? (digitsOf n.natAbs)).map (fun n : Nat => -(n : Int)) = some n
    rw [digits, Option.map_some, Option.some.injEq]
    omega
  · rw [readExponent?, splitSign_digits (isDigit_digitsOf _)]
    show (readDigits? (digitsOf n.natAbs)).map (fun n : Nat => (n : Int)) = some n
    rw [digits, Option.map_some, Option.some.injEq]
    omega

/-- Digits with a point among them say their number. -/
theorem readPoint?_eq {whole fraction : List Char} (wholeDigits : ∀ c ∈ whole, c.isDigit = true)
    (nonempty : whole ≠ []) (fractionDigits : ∀ c ∈ fraction, c.isDigit = true) :
    readPoint? (whole ++ '.' :: fraction) = some (pointValue whole fraction) := by
  have noPoint : '.' ∉ whole := not_mem_of_isDigit wholeDigits rfl
  have digits : ∀ c ∈ whole ++ fraction, c.isDigit = true :=
    List.forall_mem_append.mpr ⟨wholeDigits, fractionDigits⟩
  rw [readPoint?, takeWhile_mark noPoint, dropWhile_mark noPoint, List.drop_succ_cons,
    List.drop_zero, readDigits?_eq digits (List.append_ne_nil_of_left_ne_nil nonempty _)]
  rfl

section Written

variable {whole fraction : List Char} (isWhole : IsWhole whole) (isFraction : IsFraction fraction)

include isWhole isFraction

theorem readDecimal?_plain :
    readDecimal? (whole ++ '.' :: fraction) = some (pointValue whole fraction) := by
  have plain := exponent_not_mem isWhole isFraction
  rw [readDecimal?, dropWhile_unmarked plain, takeWhile_unmarked plain]
  exact readPoint?_eq isWhole.digits isWhole.nonempty isFraction.digits

theorem readDecimal?_scientific (n : Int) :
    readDecimal? (whole ++ '.' :: fraction ++ 'E' :: Numeral.signedDigits n) =
      some (pointValue whole fraction * 10 ^ n) := by
  have plain := exponent_not_mem isWhole isFraction
  rw [readDecimal?, dropWhile_mark plain, takeWhile_mark plain]
  simp only
  rw [readPoint?_eq isWhole.digits isWhole.nonempty isFraction.digits, readExponent?_signedDigits]
  rfl

end Written

/-! ## Magnitudes -/

theorem splitSign_sign (negative : Bool) {text : List Char}
    (unsigned : text.head? ≠ some '+' ∧ text.head? ≠ some '-') :
    splitSign (Layout.sign negative ++ text) = (negative, text) := by
  cases negative with
  | true => rfl
  | false =>
      show splitSign text = (false, text)
      rw [splitSign.eq_def]
      split
      · exact absurd rfl unsigned.1
      · exact absurd rfl unsigned.2
      · rfl

namespace Layout

variable {layout : Layout} {v : Magnitude}

/-- The text of a magnitude starts with a digit and says a number that rounds to it. -/
theorem exists_readDecimal? (mark : layout.exponentMark = 'E') (canonical : v.Canonical) :
    ∃ digit rest x, layout.shortest v = digit :: rest ∧ digit.isDigit = true ∧
      readDecimal? (digit :: rest) = some x ∧ (Magnitude.nearest x).bits = v.bits := by
  by_cases zero : v.mantissa = 0
  · have said : pointValue ['0'] ['0'] = 0 := zero_div _
    refine ⟨'0', ['.', '0'], 0, if_pos zero, rfl, ?_, ?_⟩
    · rw [← said]
      exact readDecimal?_plain (isWhole_singleton rfl) isFraction_zero
    · rw [canonical.bits_of_zero zero, Magnitude.nearest, if_pos rfl]
      rfl
  · have positive := Nat.pos_of_ne_zero zero
    have unround := Magnitude.shortest_digits_mod_ten positive
    have rounded := Magnitude.bits_nearest canonical positive
      (Magnitude.found_shortest positive).rounds
    rw [shortest, if_neg zero]
    split
    · obtain ⟨whole, fraction, plain, isWhole, isFraction, said⟩ := Numeral.exists_plain unround
      have read := readDecimal?_plain isWhole isFraction
      obtain ⟨digit, rest, rfl⟩ := List.exists_cons_of_ne_nil isWhole.nonempty
      exact ⟨digit, rest ++ '.' :: fraction, _, plain, isWhole.digits digit List.mem_cons_self,
        read.trans (congrArg some said), rounded⟩
    · obtain ⟨digit, fraction, n, scientific, isDigit, -, isFraction, said, -⟩ :=
        Numeral.exists_scientific layout.exponentMark unround
      have read := readDecimal?_scientific (isWhole_singleton isDigit) isFraction n
      rw [← mark] at read
      exact ⟨digit, _, _, scientific, isDigit, read.trans (congrArg some said), rounded⟩

/-- The text of a number that is not NaN is read back as its bits. -/
theorem exists_readBits? (mark : layout.exponentMark = 'E') (infinity : layout.infinity = "Infinity")
    {number : Number} (notNan : number ≠ .nan)
    (canonical : ∀ negative v, number = .finite negative v → v.Canonical) :
    ∃ text, layout.text? none number = some text ∧ readBits? text = some number.bits := by
  cases number with
  | nan => exact absurd rfl notNan
  | infinite negative =>
      refine ⟨_, rfl, ?_⟩
      rw [readBits?, String.toList_append, String.toList_ofList, infinity,
        splitSign_sign negative (by decide)]
      exact if_pos rfl
  | finite negative v =>
      refine ⟨_, rfl, ?_⟩
      obtain ⟨digit, rest, x, first, isDigit, said, rounded⟩ :=
        exists_readDecimal? mark (canonical negative v rfl)
      have unsigned : (digit :: rest).head? ≠ some '+' ∧ (digit :: rest).head? ≠ some '-' := by
        constructor <;> rintro ⟨⟩ <;> cases isDigit
      have name : digit :: rest ≠ "Infinity".toList := by
        rintro ⟨⟩
        cases isDigit
      rw [readBits?, String.toList_ofList, first, splitSign_sign negative unsigned]
      simp only
      rw [if_neg name, said, Option.map_some, rounded,
        Nat.min_eq_left (b := joinFields false 2047 0) (canonical negative v rfl).bits_lt.le]
      rfl

end Layout

end Decimal

open Decimal

/-- Every value other than NaN is read back from its text with all its bits, the sign of a zero
included, so no two of them have the same text. -/
theorem formatValue_faithful (value : Float) (number : value.isNaN = false) :
    ∃ text, formatValue value none = some text ∧ readBits? text = some value.toBits.toNat ∧
      ∀ other : Float, other.isNaN = false → formatValue other none = some text →
        other.toBits = value.toBits := by
  have readBack : ∀ value : Float, value.isNaN = false → ∃ text,
      formatValue value none = some text ∧ readBits? text = some value.toBits.toNat := by
    intro value number
    have notNan : Number.ofFloat value ≠ .nan := fun nan =>
      Bool.false_ne_true (number.symm.trans ((Number.isNaN_iff value).mpr nan))
    rw [← Number.bits_ofFloat value number]
    exact Layout.exists_readBits? rfl rfl notNan fun _ _ => Number.canonical_of_ofFloat
  obtain ⟨text, formatted, read⟩ := readBack value number
  refine ⟨text, formatted, read, fun other otherNumber same => ?_⟩
  obtain ⟨text', formatted', read'⟩ := readBack other otherNumber
  obtain rfl := Option.some.inj (formatted'.symm.trans same)
  exact UInt64.toNat_inj.mp (Option.some.inj (read'.symm.trans read))

/-- The negative number next to zero is subnormal and has an exponent of three digits. -/
theorem formatValue_faithful_subnormal :
    (Float.ofBits 0x8000000000000001).isNaN = false ∧
      ∃ text, formatValue (Float.ofBits 0x8000000000000001) none = some text ∧
        readBits? text = some (Float.ofBits 0x8000000000000001).toBits.toNat ∧
          ∀ other : Float, other.isNaN = false → formatValue other none = some text →
            other.toBits = (Float.ofBits 0x8000000000000001).toBits :=
  ⟨by decide +kernel, formatValue_faithful _ (by decide +kernel)⟩

-- any text that is nearer to this number than to its neighbours says it
example : readBits? "-4.9E-324" = some 0x8000000000000001 := by decide +kernel

end PolishCalc
