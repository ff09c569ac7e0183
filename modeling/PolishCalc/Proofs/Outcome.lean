import Mathlib.Data.Nat.SuccPred
import Mathlib.Order.SuccPred.Archimedean
import PolishCalc.Proofs.Reading

/-!
# The outcome of a reading, by counting

Whether a text is read, and why not, without a stack: it is enough to count digits and operators.

* **height** — `height text i` counts the digits from position `i` on and takes away the operators.
  As long as the scan succeeds, that is the number of stack entries (`Scan.runFrom_height`);
* **bad positions** — the scan cannot take in the character at `i`, because it is unknown or because
  it is an operator above fewer than two entries (`Bad`). The scan succeeds if there is none
  (`Scan.runFrom_of_no_bad`), and otherwise fails at the last one (`Scan.runFrom_of_last_bad`);
* **outcome** — what both ways of reading answer on any text (`Tree.read_outcome`).
-/

namespace PolishCalc

namespace Scan

/-- The four operator characters. -/
def isOperatorChar (c : Char) : Bool :=
  c == '+' || c == '-' || c == '*' || c == '/'

/-- The digits less the operators from a position on. -/
def height (text : List Char) (i : Nat) : Int :=
  ((text.drop i).countP Char.isDigit : Int) - ((text.drop i).countP isOperatorChar : Int)

/-- The character at the position is unknown, or it is an operator with fewer than two operands. -/
def Bad (text : List Char) (i : Nat) : Prop :=
  ∃ c, c ∈ text[i]? ∧
    ((¬ c.isDigit ∧ ¬ isOperatorChar c) ∨ (isOperatorChar c ∧ height text (i + 1) < 2))

instance (text : List Char) (i : Nat) : Decidable (Bad text i) :=
  Option.decidableExistsMem text[i]?

/-- The error of a reading that cannot take in the character at a position. -/
def refusal (c : Char) (position : Nat) : ExprError :=
  if ¬ c.isDigit ∧ ¬ isOperatorChar c then
    .invalidCharacter c position
  else
    .stackUnderflow c position

/-! ## Characters -/

theorem isDigit_digitChar (d : Fin 10) :
    (digitChar d).isDigit = true ∧ isOperatorChar (digitChar d) = false := by
  decide +revert

theorem isOperatorChar_toChar (op : Operator) :
    op.toChar.isDigit = false ∧ isOperatorChar op.toChar = true := by
  cases op <;> decide

theorem unknown_of_ofChar?_eq_none {c : Char} (unknown : Symbol.ofChar? c = none) :
    c.isDigit = false ∧ isOperatorChar c = false := by
  constructor
  · rw [Bool.eq_false_iff]
    intro digit
    have found : ∃ d, digitOfChar? c = some d := by
      rw [digitOfChar?, dif_pos (Char.isDigit_iff_toNat.mp digit)]
      exact ⟨_, rfl⟩
    obtain ⟨d, found⟩ := found
    simp [Symbol.ofChar?, found] at unknown
  · rw [Bool.eq_false_iff]
    intro operator
    simp only [isOperatorChar, Bool.or_eq_true, beq_iff_eq] at operator
    rcases operator with ((rfl | rfl) | rfl) | rfl <;> exact absurd unknown (by decide)

/-! ## Counting by suffixes -/

theorem height_cons (c : Char) (text : List Char) :
    height (c :: text) 0 = height text 0 + (if c.isDigit then 1 else 0) -
      (if isOperatorChar c then 1 else 0) := by
  simp only [height, List.drop_zero, List.countP_cons]
  split <;> split <;> omega

theorem bad_lt_length {text : List Char} {i : Nat} (bad : Bad text i) : i < text.length := by
  obtain ⟨_, found, _⟩ := bad
  exact (List.getElem?_eq_some_iff.mp found).1

/-- A text with bad positions has a last one. -/
theorem exists_last_bad {text : List Char} (present : ∃ i, Bad text i) :
    ∃ p, IsGreatest {i | Bad text i} p := by
  have bounded : BddAbove {i | Bad text i} := ⟨text.length, fun _ bad => (bad_lt_length bad).le⟩
  exact bounded.exists_isGreatest_of_nonempty present

/-! ## The scan -/

/-- The stack of a scan is as high as counted. -/
theorem runFrom_height {column : Nat} {text : List Char} {state : Scan}
    (success : runFrom column text = .ok state) : (state.stack.length : Int) = height text 0 := by
  induction text generalizing column state with
  | nil =>
      obtain rfl := Except.ok.inj success
      rfl
  | cons c text ih =>
      obtain ⟨before, suffix, step⟩ := bind_eq_ok success
      have counted := ih suffix
      rcases step_cases step with ⟨d, rfl, rfl⟩ | ⟨op, l, r, rest, rfl, stacked, rfl⟩
      · obtain ⟨digit, operator⟩ := isDigit_digitChar d
        rw [height_cons, digit, operator, ← counted]
        simp [push]
      · obtain ⟨digit, operator⟩ := isOperatorChar_toChar op
        rw [height_cons, digit, operator, ← counted, stacked]
        simp [push]

/-- A text without bad positions is taken in. -/
theorem runFrom_of_no_bad {text : List Char} (good : ∀ i, ¬ Bad text i) (column : Nat) :
    ∃ state, runFrom column text = .ok state := by
  induction text generalizing column with
  | nil => exact ⟨{}, rfl⟩
  | cons c text ih =>
      obtain ⟨before, suffix⟩ := ih (fun i bad => good (i + 1) bad) (column + 1)
      rw [runFrom_cons suffix]
      rcases Symbol.char_cases c with ⟨d, rfl⟩ | ⟨op, rfl⟩ | unknown
      · exact ⟨_, step_digit before d column⟩
      · have enough : ¬ height text 0 < 2 := by
          intro low
          exact good 0 ⟨op.toChar, rfl, .inr ⟨(isOperatorChar_toChar op).2, low⟩⟩
        rw [← runFrom_height suffix] at enough
        obtain ⟨l, r, rest, stacked⟩ := two_le_length_iff.mp (by omega : 2 ≤ before.stack.length)
        exact ⟨_, step_operator stacked op column⟩
      · obtain ⟨digit, operator⟩ := unknown_of_ofChar?_eq_none unknown
        exact absurd ⟨c, rfl, .inl ⟨by simp [digit], by simp [operator]⟩⟩ (good 0)

/-- A character at a bad position is refused, once everything after it has been taken in. -/
theorem step_of_bad {c : Char} {text : List Char} {state : Scan} {column : Nat}
    (suffix : runFrom (column + 1) text = .ok state) (bad : Bad (c :: text) 0) :
    state.step (c, column) = .error (refusal c column) := by
  obtain ⟨_, ⟨rfl⟩, unknown | ⟨operator, low⟩⟩ := bad
  · rw [refusal, if_pos unknown]
    rcases Symbol.char_cases c with ⟨d, rfl⟩ | ⟨op, rfl⟩ | unread
    · exact absurd (isDigit_digitChar d).1 unknown.1
    · exact absurd (isOperatorChar_toChar op).2 unknown.2
    · exact step_invalid unread state column
  · rw [refusal, if_neg (fun unknown => unknown.2 operator)]
    -- the stack after the suffix is as high as counted, which is too low
    have short : state.stack.length < 2 := by
      have counted := runFrom_height suffix
      have low : height text 0 < 2 := low
      omega
    rcases Symbol.char_cases c with ⟨d, rfl⟩ | ⟨op, rfl⟩ | unread
    · rw [(isDigit_digitChar d).2] at operator
      cases operator
    · exact step_underflow short op column
    · rw [(unknown_of_ofChar?_eq_none unread).2] at operator
      cases operator

/-- A scan fails at the last bad position. -/
theorem runFrom_of_last_bad {text : List Char} {p : Nat} (last : IsGreatest {i | Bad text i} p)
    (column : Nat) :
    ∃ c, text[p]? = some c ∧ runFrom column text = .error (refusal c (column + p)) := by
  obtain ⟨bad, above⟩ := last
  induction text generalizing p column with
  | nil => exact absurd (bad_lt_length bad) (Nat.not_lt_zero p)
  | cons c text ih =>
      cases p with
      | zero =>
          -- no position after the last bad one is bad, so the scan gets as far as this one
          have good : ∀ i, ¬ Bad text i := fun i later => Nat.not_succ_le_zero i (above later)
          obtain ⟨state, suffix⟩ := runFrom_of_no_bad good (column + 1)
          exact ⟨c, rfl, (runFrom_cons suffix c).trans (step_of_bad suffix bad)⟩
      | succ p =>
          have above' : p ∈ upperBounds {i | Bad text i} := fun i later =>
            Nat.le_of_succ_le_succ (above later)
          obtain ⟨c', found, failure⟩ := ih (column + 1) bad above'
          refine ⟨c', found, ?_⟩
          rw [runFrom_cons_error failure c, Nat.add_assoc, Nat.add_comm 1 p]

end Scan

/-! ## The outcome -/

namespace Tree

open Scan

/-- Both ways of reading fail at the last bad position. -/
theorem read_of_last_bad {text : String} {p : Nat}
    (last : IsGreatest {i | Bad text.toList i} p) :
    ∃ c, text.toList[p]? = some c ∧ ∀ strict, Tree.read strict text = .error (refusal c p) := by
  obtain ⟨c, found, failure⟩ := runFrom_of_last_bad last 0
  have nonempty : text ≠ "" := by
    rintro rfl
    exact absurd (bad_lt_length last.1) (Nat.not_lt_zero p)
  rw [Nat.zero_add] at failure
  exact ⟨c, found, read_of_scan_error nonempty failure⟩

/-- Without a bad position the height is the number of expressions, at least one; lenient reading
succeeds, and strict reading counts the expressions after the first. -/
theorem read_of_no_bad {text : String} (nonempty : text ≠ "")
    (good : ∀ i, ¬ Bad text.toList i) :
    ∃ n : Nat, height text.toList 0 = (n : Int) + 1 ∧ ∃ t, Tree.read false text = .ok t ∧
      Tree.read true text = if n = 0 then .ok t else .error (.malformedExpression n) := by
  obtain ⟨state, scanned⟩ := runFrom_of_no_bad good 0
  obtain ⟨e, es, holds, decomposed⟩ := flatMap_of_scan nonempty scanned
  obtain ⟨t, lenient, _, strict⟩ := read_flatMap decomposed
  refine ⟨es.length, ?_, t, lenient, ?_⟩
  · rw [← runFrom_height scanned, holds.length_stack, List.length_cons, Int.natCast_succ]
  · rw [strict]
    simp only [List.length_eq_zero_iff]

/-- Nothing but the empty text is refused as empty. -/
theorem read_eq_emptyExpression_iff {strict : Bool} {text : String} :
    Tree.read strict text = .error .emptyExpression ↔ text = "" := by
  constructor
  · intro failure
    by_contra nonempty
    by_cases present : ∃ i, Bad text.toList i
    · obtain ⟨p, last⟩ := exists_last_bad present
      obtain ⟨c, _, answer⟩ := read_of_last_bad last
      rw [answer, refusal] at failure
      split at failure <;> cases failure
    · obtain ⟨n, _, t, lenient, answer⟩ := read_of_no_bad nonempty (not_exists.mp present)
      cases strict with
      | false => rw [lenient] at failure; cases failure
      | true => rw [answer] at failure; split at failure <;> cases failure
  · rintro rfl
    exact read_empty strict

/-- The outcome of a reading. The empty text is an error of its own; a bad position is an error, and
the last one is reported, with its column in characters; otherwise the height decides. -/
theorem read_outcome (text : String) :
    (∀ strict, Tree.read strict text = .error .emptyExpression ↔ text = "") ∧
      ((∃ i, Bad text.toList i) →
        ∃ p c, IsGreatest {i | Bad text.toList i} p ∧ text.toList[p]? = some c ∧
          ∀ strict, Tree.read strict text = .error (refusal c p)) ∧
      (text ≠ "" → (∀ i, ¬ Bad text.toList i) →
        1 ≤ height text.toList 0 ∧ (∃ t, Tree.read false text = .ok t) ∧
          (height text.toList 0 = 1 → ∃ t, Tree.read true text = .ok t) ∧
          (1 < height text.toList 0 →
            Tree.read true text =
              .error (.malformedExpression (height text.toList 0 - 1).toNat))) := by
  refine ⟨fun _ => read_eq_emptyExpression_iff, ?_, ?_⟩
  · intro present
    obtain ⟨p, last⟩ := exists_last_bad present
    obtain ⟨c, found, answer⟩ := read_of_last_bad last
    exact ⟨p, c, last, found, answer⟩
  · intro nonempty good
    obtain ⟨n, counted, t, lenient, answer⟩ := read_of_no_bad nonempty good
    refine ⟨by omega, ⟨t, lenient⟩, ?_, ?_⟩
    · intro one
      have zero : n = 0 := by omega
      exact ⟨t, by rw [answer, if_pos zero]⟩
    · intro more
      have positive : n ≠ 0 := by omega
      have leftover : (height text.toList 0 - 1).toNat = n := by omega
      rw [answer, if_neg positive, leftover]

/-- An operator without operands is reported before an unknown character on its left, and its column
counts characters. A digit before a sum is one expression too many. -/
theorem read_outcome_underflow_leftover :
    (∀ strict, Tree.read strict "é-12+" = .error (.stackUnderflow '+' 4)) ∧
      Tree.read true "1+23" = .error (.malformedExpression 1) := by
  constructor
  · have bad : Bad "é-12+".toList 4 := by decide
    obtain ⟨p, c, last, found, answer⟩ := (read_outcome "é-12+").2.1 ⟨4, bad⟩
    have lower : 4 ≤ p := last.2 bad
    have upper : p < 5 := bad_lt_length last.1
    obtain rfl : p = 4 := by omega
    obtain rfl : c = '+' := (Option.some.inj found).symm
    exact answer
  · have good : ∀ i, ¬ Bad "1+23".toList i := by
      intro i bad
      have bound : i < 4 := bad_lt_length bad
      have none_below : ∀ i < 4, ¬ Bad "1+23".toList i := by decide
      exact none_below i bound bad
    exact ((read_outcome "1+23").2.2 (by decide) good).2.2.2 (by decide)

end Tree

end PolishCalc
