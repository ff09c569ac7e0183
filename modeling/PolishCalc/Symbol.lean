/-!
# Symbols

An expression is written with fourteen characters: the ASCII digits and four binary operators.
`Symbol.ofChar?` reads one character, `Symbol.toChar` writes it, and `Symbol.ofChar?_toChar` says
that reading undoes writing. What the operators compute is a parameter: an `Arithmetic` gives the
value of a digit and the four operations, so that laws of evaluation hold for any number system.
-/

namespace PolishCalc

/-- The four binary operators. -/
inductive Operator where
  | add
  | sub
  | mul
  | div
  deriving DecidableEq, Repr

/-- One classified character: a digit or an operator. -/
inductive Symbol where
  | digit (value : Fin 10)
  | operator (op : Operator)
  deriving DecidableEq, Repr

/-- The number system of an evaluation. -/
structure Arithmetic (α : Type) where
  /-- The value of a digit. -/
  digit : Fin 10 → α
  add : α → α → α
  sub : α → α → α
  mul : α → α → α
  div : α → α → α

/-- Binary64 arithmetic; a division by zero gives an infinity or a NaN. -/
def Arithmetic.binary64 : Arithmetic Float where
  digit d := Float.ofNat d.val
  add := (· + ·)
  sub := (· - ·)
  mul := (· * ·)
  div := (· / ·)

namespace Operator

/-- All operators, in the order in which they are usually listed. -/
def all : List Operator := [.add, .sub, .mul, .div]

/-- The character of an operator. -/
def toChar : Operator → Char
  | .add => '+'
  | .sub => '-'
  | .mul => '*'
  | .div => '/'

/-- The operator that a character stands for. -/
def ofChar? (c : Char) : Option Operator :=
  all.find? fun op => op.toChar == c

/-- Combines two operand values; the order of the operands matters. -/
def apply {α : Type} (arithmetic : Arithmetic α) : Operator → α → α → α
  | .add => arithmetic.add
  | .sub => arithmetic.sub
  | .mul => arithmetic.mul
  | .div => arithmetic.div

theorem ofChar?_toChar (op : Operator) : ofChar? op.toChar = some op := by
  cases op <;> rfl

theorem toChar_of_ofChar? {c : Char} {op : Operator} (found : ofChar? c = some op) :
    op.toChar = c := by
  simpa using List.find?_some found

end Operator

/-- The ASCII character of a digit. -/
def digitChar (d : Fin 10) : Char :=
  Char.ofNat ('0'.toNat + d.val)

/-- The value of an ASCII digit; digits of other scripts are not read. -/
def digitOfChar? (c : Char) : Option (Fin 10) :=
  if h : '0'.toNat ≤ c.toNat ∧ c.toNat ≤ '9'.toNat then
    some ⟨c.toNat - '0'.toNat, by have := h.2; have := h.1; simp at *; omega⟩
  else
    none

theorem digitOfChar?_digitChar (d : Fin 10) : digitOfChar? (digitChar d) = some d := by
  decide +revert

namespace Symbol

/-- Reads one character; none of the fourteen characters stands for two symbols. -/
def ofChar? (c : Char) : Option Symbol :=
  match digitOfChar? c with
  | some d => some (.digit d)
  | none => (Operator.ofChar? c).map .operator

/-- Writes one symbol. -/
def toChar : Symbol → Char
  | .digit d => digitChar d
  | .operator op => op.toChar

theorem ofChar?_toChar (s : Symbol) : ofChar? s.toChar = some s := by
  cases s with
  | digit d => simp [ofChar?, toChar, digitOfChar?_digitChar]
  | operator op => cases op <;> rfl

end Symbol

end PolishCalc
