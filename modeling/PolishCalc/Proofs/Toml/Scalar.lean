import Mathlib.Data.List.TakeWhile
import PolishCalc.Proofs.Decimal.Integer
import PolishCalc.Toml.Scalar

/-!
# Integers in documents

Which integers a document can hold, and how they are written.

* **written** — the decimal digits of a number are read as that number, if it fits into 64 bits
  (`Scalar.ofBare?_toDigits`). They are no date, no time and no float, because those need a
  character that is no digit;
* **read** — every integer that is read fits into 64 bits (`Scalar.fits_of_ofBare?`).
-/

namespace PolishCalc

namespace Toml

open Decimal

/-! ## Digits are a number -/

theorem ungroup?_digits {digits : List Char} (all : ∀ c ∈ digits, c.isDigit = true)
    (nonempty : digits ≠ []) : ungroup? Char.isDigit digits = some digits := by
  induction digits with
  | nil => exact absurd rfl nonempty
  | cons c digits ih =>
      obtain ⟨digit, later⟩ := List.forall_mem_cons.mp all
      match digits, ih, later with
      | [], _, _ => rw [ungroup?, if_pos digit]
      | next :: digits, ih, later =>
          have plain : next ≠ '_' := by
            rintro rfl
            exact absurd (later '_' List.mem_cons_self) (by decide)
          rw [ungroup?, if_pos digit, ih later (by simp)]
          · rfl
          · simp
          · intro _ equal
            exact plain (List.cons.inj equal).1

theorem decimalDigits?_digits {digits : List Char} (all : ∀ c ∈ digits, c.isDigit = true)
    (nonempty : digits ≠ []) (leading : ∀ c rest, digits ≠ '0' :: c :: rest) :
    decimalDigits? digits = some digits := by
  rw [decimalDigits?.eq_def]
  split
  · next c rest => exact absurd rfl (leading c rest)
  · exact ungroup?_digits all nonempty

theorem integer?_digits {digits : List Char} (all : ∀ c ∈ digits, c.isDigit = true)
    (nonempty : digits ≠ []) (leading : ∀ c rest, digits ≠ '0' :: c :: rest) :
    integer? digits = bounded? (ofDigits 10 digits) := by
  rw [integer?.eq_def]
  split
  · next rest => exact absurd rfl (leading 'x' rest)
  · next rest => exact absurd rfl (leading 'o' rest)
  · next rest => exact absurd rfl (leading 'b' rest)
  · rw [splitSign_digits all]
    dsimp only
    rw [decimalDigits?_digits all nonempty leading, Option.bind_eq_bind, Option.bind_some,
      if_neg Bool.false_ne_true]

/-! ## Digits are nothing else -/

theorem after?_digits {digits : List Char} (all : ∀ c ∈ digits, c.isDigit = true) {mark : Char}
    (noDigit : mark.isDigit = false) : after? mark digits = none := by
  cases digits with
  | nil => rfl
  | cons c digits =>
      have other : c ≠ mark := by
        rintro rfl
        rw [all c List.mem_cons_self] at noDigit
        cases noDigit
      rw [after?, if_neg other]

/-- What is left after a number of fixed length are digits again. -/
theorem digits_of_fixedNumber? {count value : Nat} {digits rest : List Char}
    (all : ∀ c ∈ digits, c.isDigit = true) (read : fixedNumber? count digits = some (value, rest)) :
    ∀ c ∈ rest, c.isDigit = true := by
  dsimp only [fixedNumber?] at read
  split at read
  · obtain ⟨rfl, rfl⟩ := Option.some.inj read
    intro c member
    exact all c (List.mem_of_mem_drop member)
  · cases read

theorem afterMinutes?_digits {digits : List Char} (all : ∀ c ∈ digits, c.isDigit = true) :
    afterMinutes? digits = none := by
  cases hour : fixedNumber? 2 digits with
  | none => rw [afterMinutes?, hour]; rfl
  | some read =>
      have later := digits_of_fixedNumber? all hour
      simp [afterMinutes?, hour, after?_digits later]

theorem afterDate?_digits {digits : List Char} (all : ∀ c ∈ digits, c.isDigit = true) :
    afterDate? digits = none := by
  cases year : fixedNumber? 4 digits with
  | none => rw [afterDate?, year]; rfl
  | some read =>
      have later := digits_of_fixedNumber? all year
      simp [afterDate?, year, after?_digits later]

theorem isDateTime_digits {digits : List Char} (all : ∀ c ∈ digits, c.isDigit = true) :
    isDateTime digits = false := by
  simp [isDateTime, afterTime?, afterMinutes?_digits all, afterDate?_digits all]

theorem splitAt?_digits {digits : List Char} (all : ∀ c ∈ digits, c.isDigit = true)
    {isMark : Char → Bool} (noDigit : ∀ c, c.isDigit = true → isMark c = false) :
    splitAt? isMark digits = (digits, none) := by
  have unmarked : digits.dropWhile (!isMark ·) = [] := by
    rw [List.dropWhile_eq_nil_iff]
    intro c member
    rw [noDigit c (all c member)]
    rfl
  rw [splitAt?, unmarked]

theorem isFloat_digits {digits : List Char} (all : ∀ c ∈ digits, c.isDigit = true) :
    isFloat digits = false := by
  have ne_of_digit : ∀ {c mark : Char}, c.isDigit = true → mark.isDigit = false → c ≠ mark := by
    rintro c _ digit noDigit rfl
    rw [digit] at noDigit
    cases noDigit
  have exponent : splitAt? (fun c => c == 'e' || c == 'E') digits = (digits, none) :=
    splitAt?_digits all fun c digit => by
      simp [ne_of_digit digit (by decide : 'e'.isDigit = false),
        ne_of_digit digit (by decide : 'E'.isDigit = false)]
  have fraction : splitAt? (· == '.') digits = (digits, none) :=
    splitAt?_digits all fun c digit => by
      simp [ne_of_digit digit (by decide : '.'.isDigit = false)]
  have infinity : digits ≠ ['i', 'n', 'f'] := by
    rintro rfl
    exact absurd (all 'i' List.mem_cons_self) (by decide)
  have nan : digits ≠ ['n', 'a', 'n'] := by
    rintro rfl
    exact absurd (all 'n' List.mem_cons_self) (by decide)
  simp [isFloat, splitSign_digits all, exponent, fraction, infinity, nan]

/-- The digits of a number are read as that number. -/
theorem Scalar.ofBare?_toDigits {n : Nat} (fits : n < integerBound) :
    Scalar.ofBare? (Nat.toDigits 10 n) = some (.integer n) := by
  have all : ∀ c ∈ Nat.toDigits 10 n, c.isDigit = true :=
    fun c member => Nat.isDigit_of_mem_toDigits (by decide) (by decide) member
  have leading : ∀ c rest, Nat.toDigits 10 n ≠ '0' :: c :: rest := by
    intro c rest digits
    by_cases positive : 0 < n
    · exact head?_toDigits positive (by rw [digits, List.head?_cons])
    · obtain rfl : n = 0 := by omega
      simp at digits
  have noWord : ∀ first rest, Char.isDigit first = false → Nat.toDigits 10 n ≠ first :: rest := by
    intro first rest noDigit digits
    have digit := all first (by rw [digits]; exact List.mem_cons_self)
    rw [digit] at noDigit
    cases noDigit
  rw [Scalar.ofBare?, if_neg (noWord 't' _ rfl), if_neg (noWord 'f' _ rfl), isDateTime_digits all,
    isFloat_digits all, integer?_digits all Nat.toDigits_ne_nil leading, ofDigits_toDigits,
    bounded?_natCast fits]
  rfl

/-! ## What is read is bounded -/

/-- An integer that fits into 64 bits; other values need no bound. -/
def Scalar.Fits : Scalar → Prop
  | .integer n => -(integerBound : Int) ≤ n ∧ n < integerBound
  | _ => True

theorem bounded_of_integer? {text : List Char} {n : Int} (read : integer? text = some n) :
    -(integerBound : Int) ≤ n ∧ n < integerBound := by
  -- in every base the value is checked at the end
  have checked : ∃ m, bounded? m = some n := by
    unfold integer? at read
    split at read
    all_goals
      simp only [Option.bind_eq_bind, Option.bind_eq_some_iff] at read
      obtain ⟨_, _, bounded⟩ := read
      exact ⟨_, bounded⟩
  obtain ⟨m, bounded⟩ := checked
  exact (bounded?_eq_some_iff.mp bounded).2

/-- Every bare value that is read fits. -/
theorem Scalar.fits_of_ofBare? {text : List Char} {scalar : Scalar}
    (read : Scalar.ofBare? text = some scalar) : scalar.Fits := by
  unfold Scalar.ofBare? at read
  split at read
  · obtain rfl := Option.some.inj read
    trivial
  · split at read
    · obtain rfl := Option.some.inj read
      trivial
    · split at read
      · obtain rfl := Option.some.inj read
        trivial
      · split at read
        · obtain rfl := Option.some.inj read
          trivial
        · obtain ⟨n, integer, rfl⟩ := Option.map_eq_some_iff.mp read
          exact bounded_of_integer? integer

end Toml

end PolishCalc
