import PolishCalc.Proofs.Decimal.Value
import PolishCalc.Proofs.Toml.Scalar

/-!
# Decimals as texts

What the two layouts of a decimal look like, and which number their digits say.

* **parts** — `IsWhole` are the digits before a point and `IsFraction` the digits after it, neither
  with a zero that could be left out;
* **plain** — a decimal with a point is a whole part and a fraction whose digits say its value
  (`Numeral.exists_plain`);
* **scientific** — with an exponent it is one digit other than zero, a fraction and the exponent of
  the power of ten that the value lies at or above (`Numeral.exists_scientific`).
-/

namespace PolishCalc.Decimal

/-! ## Parts -/

/-- Digits of an integer, of which the first is no zero unless it is the only one. -/
structure IsWhole (text : List Char) : Prop where
  digits : ∀ c ∈ text, c.isDigit = true
  nonempty : text ≠ []
  leading : text = ['0'] ∨ text.head? ≠ some '0'

/-- Digits after a point, of which the last is no zero unless it is the only one. -/
structure IsFraction (text : List Char) : Prop where
  digits : ∀ c ∈ text, c.isDigit = true
  nonempty : text ≠ []
  trailing : text = ['0'] ∨ text.getLast? ≠ some '0'

/-- The number that digits say with a point between them. -/
def pointValue (whole fraction : List Char) : ℚ :=
  ofDigits 10 (whole ++ fraction) / 10 ^ fraction.length

theorem not_mem_of_isDigit {text : List Char} (digits : ∀ c ∈ text, c.isDigit = true) {mark : Char}
    (other : mark.isDigit = false) : mark ∉ text := fun member => by
  rw [digits mark member] at other
  cases other

/-- Digits with a point among them hold no exponent. -/
theorem exponent_not_mem {whole fraction : List Char} (isWhole : IsWhole whole)
    (isFraction : IsFraction fraction) : 'E' ∉ whole ++ '.' :: fraction := by
  rw [List.mem_append, List.mem_cons]
  rintro (inWhole | point | inFraction)
  · exact not_mem_of_isDigit isWhole.digits rfl inWhole
  · cases point
  · exact not_mem_of_isDigit isFraction.digits rfl inFraction

/-! ## Digits -/

theorem isDigit_digitsOf (n : Nat) : ∀ c ∈ digitsOf n, c.isDigit = true :=
  fun _ member => Nat.isDigit_of_mem_toDigits (by decide) (by decide) member

theorem digitsOf_ne_nil (n : Nat) : digitsOf n ≠ [] :=
  Nat.toDigits_ne_nil

theorem ofDigits_digitsOf (n : Nat) : ofDigits 10 (digitsOf n) = n :=
  ofDigits_toDigits n

theorem isWhole_digitsOf (n : Nat) : IsWhole (digitsOf n) where
  digits := isDigit_digitsOf n
  nonempty := digitsOf_ne_nil n
  leading := by
    rcases n.eq_zero_or_pos with rfl | positive
    · exact Or.inl rfl
    · exact Or.inr (head?_toDigits positive)

theorem getLast?_digitsOf (n : Nat) :
    (digitsOf n).getLast? = some (Nat.digitChar (n % 10)) := by
  by_cases small : n < 10
  · rw [digitsOf, Nat.toDigits_of_lt_base small, List.getLast?_singleton, Nat.mod_eq_of_lt small]
  · rw [digitsOf, Nat.toDigits_of_base_le (by decide) (by omega), List.getLast?_concat]

theorem getLast?_digitsOf_ne_zero {n : Nat} (unround : n % 10 ≠ 0) :
    (digitsOf n).getLast? ≠ some '0' := by
  have last : ∀ d < 10, d ≠ 0 → some (Nat.digitChar d) ≠ some '0' := by decide
  rw [getLast?_digitsOf]
  exact last _ (Nat.mod_lt _ (by decide)) unround

theorem isWhole_singleton {digit : Char} (isDigit : digit.isDigit = true) : IsWhole [digit] where
  digits := List.forall_mem_singleton.mpr isDigit
  nonempty := List.cons_ne_nil _ _
  leading := by
    by_cases zero : digit = '0'
    · exact Or.inl (by rw [zero])
    · exact Or.inr fun leading => zero (Option.some.inj leading)

theorem isFraction_zero : IsFraction ['0'] :=
  ⟨List.forall_mem_singleton.mpr rfl, List.cons_ne_nil _ _, Or.inl rfl⟩

theorem lt_pow_length_digitsOf (n : Nat) : n < 10 ^ (digitsOf n).length :=
  (Nat.length_toDigits_le_iff (by decide) Nat.length_toDigits_pos).mp (le_refl _)

theorem pow_length_digitsOf_le {n : Nat} (positive : 0 < n) :
    10 ^ ((digitsOf n).length - 1) ≤ n := by
  rcases Nat.eq_zero_or_pos ((digitsOf n).length - 1) with one | more
  · rw [one]
    exact positive
  · have : ¬ (digitsOf n).length ≤ (digitsOf n).length - 1 := by omega
    exact Nat.not_lt.mp fun below => this ((Nat.length_toDigits_le_iff (by decide) more).mpr below)

theorem ofDigits_replicate_zero (count : Nat) (digits : List Char) :
    ofDigits 10 (List.replicate count '0' ++ digits) = ofDigits 10 digits := by
  induction count with
  | zero => rfl
  | succ count ih =>
      rw [List.replicate_succ, List.cons_append, ← ih]
      rfl

theorem ofDigits_concat_zero (digits : List Char) :
    ofDigits 10 (digits ++ ['0']) = 10 * ofDigits 10 digits := by
  rw [ofDigits, List.foldl_append]
  rfl

/-! ## Plain decimals -/

section Pointed

variable {n places : Nat}

/-- The digits of a number with zeros before them, so that one digit more than the places is
there. -/
def paddedDigits (n places : Nat) : List Char :=
  List.replicate (places + 1 - (digitsOf n).length) '0' ++ digitsOf n

theorem isDigit_paddedDigits : ∀ c ∈ paddedDigits n places, c.isDigit = true := by
  intro c member
  rcases List.mem_append.mp member with zero | digit
  · rw [List.eq_of_mem_replicate zero]
    rfl
  · exact isDigit_digitsOf n c digit

theorem lt_length_paddedDigits (n places : Nat) : places < (paddedDigits n places).length := by
  rw [paddedDigits, List.length_append, List.length_replicate]
  omega

theorem isWhole_paddedDigits (n places : Nat) :
    IsWhole ((paddedDigits n places).take ((paddedDigits n places).length - places)) := by
  have more := lt_length_paddedDigits n places
  refine ⟨fun c member => isDigit_paddedDigits c (List.mem_of_mem_take member), fun nil => ?_, ?_⟩
  · rcases List.take_eq_nil_iff.mp nil with none | empty
    · omega
    · rw [empty, List.length_nil] at more
      omega
  · rcases Nat.lt_or_ge places (digitsOf n).length with long | short
    · have unpadded : paddedDigits n places = digitsOf n := by
        rw [paddedDigits, Nat.sub_eq_zero_of_le long]
        rfl
      rcases n.eq_zero_or_pos with rfl | positive
      · -- zero has a single digit
        obtain rfl : places = 0 := Nat.lt_one_iff.mp long
        exact Or.inl rfl
      · rw [unpadded, List.head?_take, if_neg (by omega)]
        exact Or.inr (head?_toDigits positive)
    · have length : (paddedDigits n places).length - places = 1 := by
        rw [paddedDigits, List.length_append, List.length_replicate]
        omega
      rw [length, paddedDigits, Nat.succ_sub short, List.replicate_succ]
      exact Or.inl rfl

theorem ofDigits_paddedDigits (n places : Nat) : ofDigits 10 (paddedDigits n places) = n := by
  rw [paddedDigits, ofDigits_replicate_zero, ofDigits_digitsOf]

theorem getLast?_paddedDigits (n places : Nat) :
    (paddedDigits n places).getLast? = (digitsOf n).getLast? := by
  rw [paddedDigits, List.getLast?_append_of_ne_nil _ (digitsOf_ne_nil n)]

/-- With the point before the last digits the number is divided by a power of ten. -/
theorem pointValue_paddedDigits (n places : Nat) :
    pointValue ((paddedDigits n places).take ((paddedDigits n places).length - places))
      ((paddedDigits n places).drop ((paddedDigits n places).length - places)) =
        n / 10 ^ places := by
  have more := lt_length_paddedDigits n places
  rw [pointValue, List.take_append_drop, List.length_drop, ofDigits_paddedDigits,
    Nat.sub_sub_self more.le]

theorem isFraction_paddedDigits (some_places : 0 < places) (unround : n % 10 ≠ 0) :
    IsFraction ((paddedDigits n places).drop ((paddedDigits n places).length - places)) := by
  have more := lt_length_paddedDigits n places
  refine ⟨fun c member => isDigit_paddedDigits c (List.mem_of_mem_drop member), fun nil => ?_,
    Or.inr ?_⟩
  · have := List.drop_eq_nil_iff.mp nil
    omega
  · rw [List.getLast?_drop, if_neg (by omega), getLast?_paddedDigits]
    exact getLast?_digitsOf_ne_zero unround

/-- A number with places is its digits, with a point before the last ones if there are places. -/
theorem pointed_eq (n places : Nat) :
    pointed n places =
      (paddedDigits n places).take ((paddedDigits n places).length - places) ++
        if places = 0 then []
        else '.' :: (paddedDigits n places).drop ((paddedDigits n places).length - places) := by
  rw [pointed]
  by_cases none : places = 0
  · rw [if_pos none, if_pos none, List.append_nil]
    rfl
  · rw [if_neg none, if_neg none]
    rfl

theorem getLast?_pointed (n places : Nat) :
    (pointed n places).getLast? = some (Nat.digitChar (n % 10)) := by
  have more := lt_length_paddedDigits n places
  rw [pointed_eq, ← getLast?_digitsOf, ← getLast?_paddedDigits n places]
  split
  · rename_i none
    rw [none, Nat.sub_zero, List.take_length, List.append_nil]
  · rw [List.getLast?_append_of_ne_nil _ (List.cons_ne_nil _ _), List.getLast?_cons,
      List.getLast?_drop, if_neg (by omega), getLast?_paddedDigits, getLast?_digitsOf]
    rfl

end Pointed

namespace Numeral

variable {d : Numeral}

/-- A decimal with a point. -/
theorem exists_plain (unround : d.digits % 10 ≠ 0) :
    ∃ whole fraction, d.plain = whole ++ '.' :: fraction ∧ IsWhole whole ∧ IsFraction fraction ∧
      pointValue whole fraction = d.value := by
  by_cases integer : 0 ≤ d.exponent
  · obtain ⟨k, exponent⟩ := Int.eq_ofNat_of_zero_le integer
    refine ⟨digitsOf (d.digits * tenTo k), ['0'], ?_, isWhole_digitsOf _, isFraction_zero, ?_⟩
    · rw [plain, if_pos integer, exponent, Int.toNat_natCast]
    · rw [pointValue, ofDigits_concat_zero, ofDigits_digitsOf, value, exponent,
        zpow_natCast, List.length_singleton, pow_one]
      push_cast
      rw [cast_tenTo, mul_div_cancel_left₀ _ (by norm_num)]
  · obtain ⟨k, exponent⟩ := Int.exists_eq_neg_ofNat (not_le.mp integer).le
    have some_places : 0 < k := by omega
    have places : (-d.exponent).toNat = k := by omega
    refine ⟨_, _, ?_, isWhole_paddedDigits d.digits k,
      isFraction_paddedDigits some_places unround, ?_⟩
    · rw [plain, if_neg integer, places, pointed_eq, if_neg some_places.ne']
    · rw [pointValue_paddedDigits, value, exponent, zpow_neg, zpow_natCast, div_eq_mul_inv]

/-! ## Decimals with an exponent -/

/-- A decimal with an exponent. -/
theorem exists_scientific (mark : Char) (unround : d.digits % 10 ≠ 0) :
    ∃ digit fraction exponent,
      d.scientific mark = digit :: '.' :: fraction ++ mark :: signedDigits exponent ∧
        digit.isDigit = true ∧ digit ≠ '0' ∧ IsFraction fraction ∧
          pointValue [digit] fraction * 10 ^ exponent = d.value ∧
            10 ^ exponent ≤ d.value ∧ d.value < 10 ^ (exponent + 1) := by
  have positive : 0 < d.digits := by omega
  obtain ⟨digit, rest, split⟩ := List.exists_cons_of_ne_nil (digitsOf_ne_nil d.digits)
  have all : ∀ c ∈ digit :: rest, c.isDigit = true := split ▸ isDigit_digitsOf d.digits
  have leading : digit ≠ '0' := by
    have := head?_toDigits positive
    rw [← digitsOf, split] at this
    exact fun zero => this (congrArg some zero)
  have trailing : (digit :: rest).getLast? ≠ some '0' := split ▸ getLast?_digitsOf_ne_zero unround
  have digits : ofDigits 10 (digit :: rest) = d.digits := by
    rw [← split, ofDigits_digitsOf]
  have text : d.scientific mark =
      digit :: '.' :: (if rest.isEmpty then ['0'] else rest) ++
        mark :: signedDigits (d.exponent + rest.length) := by
    rw [scientific, split]
    rfl
  have isFraction : IsFraction (if rest.isEmpty then ['0'] else rest) := by
    cases rest with
    | nil => exact isFraction_zero
    | cons c rest =>
        rw [List.getLast?_cons_cons] at trailing
        exact ⟨(List.forall_mem_cons.mp all).2, List.cons_ne_nil _ _, Or.inr trailing⟩
  have said : pointValue [digit] (if rest.isEmpty then ['0'] else rest) * 10 ^ rest.length =
      d.digits := by
    cases rest with
    | nil =>
        show (ofDigits 10 ([digit] ++ ['0']) : ℚ) / 10 ^ 1 * 10 ^ 0 = d.digits
        rw [ofDigits_concat_zero, digits]
        push_cast
        ring
    | cons c rest =>
        show (ofDigits 10 (digit :: c :: rest) : ℚ) / 10 ^ (rest.length + 1) *
          10 ^ (rest.length + 1) = d.digits
        rw [digits, div_mul_cancel₀ _ (by positivity)]
  have length : (digitsOf d.digits).length = rest.length + 1 := congrArg List.length split
  have below := lt_pow_length_digitsOf d.digits
  have above := pow_length_digitsOf_le positive
  rw [length] at below above
  have ten : (10 : ℚ) ≠ 0 := by norm_num
  have power := ten_zpow_pos d.exponent
  refine ⟨digit, _, d.exponent + rest.length, text, all digit List.mem_cons_self, leading,
    isFraction, ?_, ?_, ?_⟩
  · rw [zpow_add₀ ten, zpow_natCast, mul_comm ((10 : ℚ) ^ d.exponent), ← mul_assoc, said, value]
  · rw [zpow_add₀ ten, zpow_natCast, mul_comm, value]
    exact mul_le_mul_of_nonneg_right (by exact_mod_cast above) power.le
  · rw [add_assoc, zpow_add₀ ten, ← Nat.cast_succ, zpow_natCast, mul_comm ((10 : ℚ) ^ d.exponent),
      value]
    exact mul_lt_mul_of_pos_right (by exact_mod_cast below) power

end Numeral

end PolishCalc.Decimal
