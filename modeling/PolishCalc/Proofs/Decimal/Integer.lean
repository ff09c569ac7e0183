import Mathlib.Algebra.Group.Int.Defs
import PolishCalc.Decimal.Integer

/-!
# Integers in texts

What integers texts say, apart from how they are read.

* **digits** — the digits of a number have it as their value (`ofDigits_toDigits`), which is the
  value that the standard library gives them (`ofDigits_eq_ofDigitChars`);
* **64 bits** — a number that was checked to fit is the same and fits (`bounded?_eq_some_iff`);
* **signed integers** — an optional sign and at least one digit say an integer (`SaysInteger`).
  Exactly those that fit into 64 bits are read (`readInteger?_eq_some_iff`).
-/

namespace PolishCalc.Decimal

/-! ## Digits -/

/-- Decimal digits have the value that the standard library gives them. -/
theorem ofDigits_eq_ofDigitChars {digits : List Char} (all : ∀ c ∈ digits, c.isDigit = true) :
    ofDigits 10 digits = Nat.ofDigitChars 10 digits 0 := by
  have decimal : ∀ value, digits.foldl (fun n c => 10 * n +
        if c.isDigit then c.toNat - '0'.toNat else c.toLower.toNat - 'a'.toNat + 10) value =
      Nat.ofDigitChars 10 digits value := by
    induction digits with
    | nil =>
        intro value
        rw [Nat.ofDigitChars_nil]
        rfl
    | cons c digits ih =>
        intro value
        obtain ⟨digit, later⟩ := List.forall_mem_cons.mp all
        rw [List.foldl_cons, ih later, Nat.ofDigitChars_cons, if_pos digit]
  exact decimal 0

theorem ofDigits_toDigits (n : Nat) : ofDigits 10 (Nat.toDigits 10 n) = n := by
  have all : ∀ c ∈ Nat.toDigits 10 n, c.isDigit = true :=
    fun c member => Nat.isDigit_of_mem_toDigits (by decide) (by decide) member
  rw [ofDigits_eq_ofDigitChars all]
  exact Nat.ofDigitChars_ten_toDigits

/-- Only the number zero is written with a zero at the start. -/
theorem head?_toDigits {n : Nat} (positive : 0 < n) : (Nat.toDigits 10 n).head? ≠ some '0' := by
  induction n using Nat.strongRecOn with
  | ind n ih =>
      by_cases small : n < 10
      · have all : ∀ n < 10, 0 < n → Nat.digitChar n ≠ '0' := by decide
        rw [Nat.toDigits_of_lt_base small, List.head?_cons, Ne, Option.some.injEq]
        exact all n small positive
      · have leading := ih (n / 10) (by omega) (by omega)
        rw [Nat.toDigits_of_base_le (by decide) (by omega), List.head?_append]
        cases digits : (Nat.toDigits 10 (n / 10)).head? with
        | none => exact absurd (List.head?_eq_none_iff.mp digits) Nat.toDigits_ne_nil
        | some c =>
            rw [digits] at leading
            exact leading

theorem splitSign_digits {digits : List Char} (all : ∀ c ∈ digits, c.isDigit = true) :
    splitSign digits = (false, digits) := by
  rw [splitSign.eq_def]
  split
  · exact absurd (all '+' List.mem_cons_self) (by decide)
  · exact absurd (all '-' List.mem_cons_self) (by decide)
  · rfl

theorem bounded?_natCast {n : Nat} (fits : n < integerBound) : bounded? n = some (n : Int) := by
  have lower : -(integerBound : Int) ≤ n := by omega
  have upper : (n : Int) < integerBound := by omega
  rw [bounded?, if_pos ⟨lower, upper⟩]

/-- What was checked to fit into 64 bits is the same and fits. -/
theorem bounded?_eq_some_iff {n m : Int} :
    bounded? n = some m ↔ n = m ∧ -(integerBound : Int) ≤ m ∧ m < integerBound := by
  rw [bounded?]
  constructor
  · intro bounded
    split at bounded
    · next fits =>
      obtain rfl := Option.some.inj bounded
      exact ⟨rfl, fits⟩
    · cases bounded
  · rintro ⟨rfl, fits⟩
    exact if_pos fits

/-! ## Signed integers -/

/-- An optional sign and at least one decimal digit, with their value. -/
inductive SaysInteger : List Char → Int → Prop
  | unsigned {digits : List Char} : digits ≠ [] → (∀ c ∈ digits, c.isDigit = true) →
      SaysInteger digits (Nat.ofDigitChars 10 digits 0)
  | plus {digits : List Char} : digits ≠ [] → (∀ c ∈ digits, c.isDigit = true) →
      SaysInteger ('+' :: digits) (Nat.ofDigitChars 10 digits 0)
  | minus {digits : List Char} : digits ≠ [] → (∀ c ∈ digits, c.isDigit = true) →
      SaysInteger ('-' :: digits) (-(Nat.ofDigitChars 10 digits 0 : Int))

theorem splitSign_cases (text : List Char) :
    (∃ rest, text = '+' :: rest ∧ splitSign text = (false, rest)) ∨
      (∃ rest, text = '-' :: rest ∧ splitSign text = (true, rest)) ∨
      splitSign text = (false, text) := by
  rw [splitSign.eq_def]
  split
  · next rest => exact .inl ⟨rest, rfl, rfl⟩
  · next rest => exact .inr (.inl ⟨rest, rfl, rfl⟩)
  · exact .inr (.inr rfl)

/-- A signed integer by its sign and the digits after that. -/
theorem saysInteger_iff {text digits : List Char} {negative : Bool}
    (split : splitSign text = (negative, digits)) (n : Int) :
    SaysInteger text n ↔ digits ≠ [] ∧ (∀ c ∈ digits, c.isDigit = true) ∧
      (if negative then -(Nat.ofDigitChars 10 digits 0 : Int) else Nat.ofDigitChars 10 digits 0) =
        n := by
  constructor
  · intro written
    cases written with
    | unsigned nonempty all =>
        obtain ⟨rfl, rfl⟩ := Prod.mk.inj ((splitSign_digits all).symm.trans split)
        exact ⟨nonempty, all, rfl⟩
    | plus nonempty all =>
        obtain ⟨rfl, rfl⟩ := Prod.mk.inj split
        exact ⟨nonempty, all, rfl⟩
    | minus nonempty all =>
        obtain ⟨rfl, rfl⟩ := Prod.mk.inj split
        exact ⟨nonempty, all, rfl⟩
  · rintro ⟨nonempty, all, rfl⟩
    rcases splitSign_cases text with ⟨rest, rfl, signed⟩ | ⟨rest, rfl, signed⟩ | signed
    · obtain ⟨rfl, rfl⟩ := Prod.mk.inj (signed.symm.trans split)
      exact .plus nonempty all
    · obtain ⟨rfl, rfl⟩ := Prod.mk.inj (signed.symm.trans split)
      exact .minus nonempty all
    · obtain ⟨rfl, rfl⟩ := Prod.mk.inj (signed.symm.trans split)
      exact .unsigned nonempty all

/-- What is read is a signed integer that fits into 64 bits. -/
theorem readInteger?_eq_some_iff (text : List Char) (n : Int) :
    readInteger? text = some n ↔ SaysInteger text n ∧ -2 ^ 63 ≤ n ∧ n < 2 ^ 63 := by
  cases split : splitSign text with
  | mk negative digits =>
      rw [saysInteger_iff split, readInteger?, split]
      dsimp only
      by_cases accepted : digits ≠ [] ∧ ∀ c ∈ digits, c.isDigit = true
      · have digital : (digits.isEmpty || !digits.all Char.isDigit) = false := by
          simpa using accepted
        rw [digital, if_neg Bool.false_ne_true, ofDigits_eq_ofDigitChars accepted.2,
          bounded?_eq_some_iff]
        constructor
        · rintro ⟨value, bounds⟩
          exact ⟨⟨accepted.1, accepted.2, value⟩, bounds⟩
        · rintro ⟨⟨_, _, value⟩, bounds⟩
          exact ⟨value, bounds⟩
      · have other : (digits.isEmpty || !digits.all Char.isDigit) = true := by
          rw [← Bool.not_eq_false]
          intro digital
          exact accepted (by simpa using digital)
        rw [if_pos other]
        constructor
        · intro read
          cases read
        · rintro ⟨⟨nonempty, all, _⟩, _⟩
          exact absurd ⟨nonempty, all⟩ accepted

theorem exists_digit_of_saysInteger {text : List Char} {n : Int} (number : SaysInteger text n) :
    ∃ c ∈ text, c.isDigit = true := by
  cases number with
  | unsigned nonempty all =>
      obtain ⟨c, rest, rfl⟩ := List.exists_cons_of_ne_nil nonempty
      exact ⟨c, List.mem_cons_self, all c List.mem_cons_self⟩
  | plus nonempty all =>
      obtain ⟨c, rest, rfl⟩ := List.exists_cons_of_ne_nil nonempty
      exact ⟨c, List.mem_cons_of_mem _ List.mem_cons_self, all c List.mem_cons_self⟩
  | minus nonempty all =>
      obtain ⟨c, rest, rfl⟩ := List.exists_cons_of_ne_nil nonempty
      exact ⟨c, List.mem_cons_of_mem _ List.mem_cons_self, all c List.mem_cons_self⟩

end PolishCalc.Decimal
