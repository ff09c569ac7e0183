import Mathlib.Data.List.Forall2
import PolishCalc.Expr

/-!
# The grammar of expression texts

`Derives text e` is the grammar `E := digit | op E E`, with `e` as the derivation tree. The texts it
generates are the preorder forms of expressions (`derives_iff`), so everything about them is stated
with `Expr.written`:

* **readability** — an expression is determined by any text that begins with its preorder form, and
  so is the place where it ends (`written_append_inj`);
* **decomposition** — a text is a concatenation of preorder forms in at most one way
  (`written_flatMap_inj`), so the grammar splits it in at most one way (`Splits.unique`).
-/

namespace PolishCalc

/-! ## The alphabet -/

theorem digitChar_of_digitOfChar? {c : Char} {d : Fin 10} (found : digitOfChar? c = some d) :
    digitChar d = c := by
  unfold digitOfChar? at found
  split at found
  · rename_i bounds
    obtain ⟨rfl⟩ := found
    have offset : '0'.toNat + (c.toNat - '0'.toNat) = c.toNat := by omega
    unfold digitChar
    rw [offset]
    exact Char.ofNat_toNat c
  · exact absurd found (by simp)

/-- Each of the fourteen characters stands for one symbol, and no other character for any. -/
theorem Symbol.ofChar?_eq_some_iff {c : Char} {s : Symbol} : ofChar? c = some s ↔ s.toChar = c := by
  constructor
  · intro found
    unfold ofChar? at found
    split at found
    · rename_i d digit
      obtain ⟨rfl⟩ := found
      exact digitChar_of_digitOfChar? digit
    · obtain ⟨op, operator, rfl⟩ := Option.map_eq_some_iff.mp found
      exact Operator.toChar_of_ofChar? operator
  · intro equal
    rw [← equal]
    exact ofChar?_toChar s

@[simp] theorem Symbol.ofChar?_digitChar (d : Fin 10) : ofChar? (digitChar d) = some (.digit d) :=
  ofChar?_toChar (.digit d)

@[simp] theorem Symbol.ofChar?_operatorChar (op : Operator) :
    ofChar? op.toChar = some (.operator op) :=
  ofChar?_toChar (.operator op)

theorem Symbol.toChar_inj {s t : Symbol} (equal : s.toChar = t.toChar) : s = t :=
  Option.some.inj ((ofChar?_toChar s).symm.trans (ofChar?_eq_some_iff.mpr equal.symm))

theorem Operator.toChar_inj {op op' : Operator} (equal : op.toChar = op'.toChar) : op = op' :=
  Symbol.operator.inj (Symbol.toChar_inj (s := .operator op) (t := .operator op') equal)

theorem digitChar_inj {d d' : Fin 10} (equal : digitChar d = digitChar d') : d = d' :=
  Symbol.digit.inj (Symbol.toChar_inj (s := .digit d) (t := .digit d') equal)

theorem digitChar_ne_toChar (d : Fin 10) (op : Operator) : digitChar d ≠ op.toChar := fun equal =>
  Symbol.noConfusion (Symbol.toChar_inj (s := .digit d) (t := .operator op) equal)

/-! ## Preorder forms -/

namespace Expr

@[simp] theorem written_leaf (d : Fin 10) : (leaf d).written .preorder = [digitChar d] := rfl

@[simp] theorem written_node (op : Operator) (left right : Expr) :
    (node op left right).written .preorder =
      op.toChar :: (left.written .preorder ++ right.written .preorder) := by
  simp [written, symbols, Symbol.toChar]

@[simp] theorem length_written (order : Order) (e : Expr) : (e.written order).length = e.size := by
  rw [written, List.length_map, length_symbols]

theorem written_ne_nil (order : Order) (e : Expr) : e.written order ≠ [] := by
  intro empty
  have length := length_written order e
  rw [empty] at length
  cases e with
  | leaf d => exact absurd length (by simp [size])
  | node op left right => simp [size] at length; omega

/-- An expression is determined by any text that begins with its preorder form, and so is the rest
of that text. -/
theorem written_append_inj {e e' : Expr} {rest rest' : List Char}
    (equal : e.written .preorder ++ rest = e'.written .preorder ++ rest') :
    e = e' ∧ rest = rest' := by
  induction e generalizing e' rest rest' with
  | leaf d =>
      cases e' with
      | leaf d' =>
          obtain ⟨digits, rests⟩ := List.cons.inj equal
          exact ⟨congrArg leaf (digitChar_inj digits), rests⟩
      | node op' left' right' =>
          rw [written_node] at equal
          exact absurd (List.cons.inj equal).1 (digitChar_ne_toChar d op')
  | node op left right ihLeft ihRight =>
      rw [written_node, List.cons_append, List.append_assoc] at equal
      cases e' with
      | leaf d' => exact absurd (List.cons.inj equal).1.symm (digitChar_ne_toChar d' op)
      | node op' left' right' =>
          rw [written_node, List.cons_append, List.append_assoc] at equal
          obtain ⟨operators, operands⟩ := List.cons.inj equal
          -- after the left operand come the right one and the rest, whatever that is
          obtain ⟨lefts, afterLeft⟩ := ihLeft operands
          obtain ⟨rights, afterRight⟩ := ihRight afterLeft
          exact ⟨by rw [Operator.toChar_inj operators, lefts, rights], afterRight⟩

/-- A text is a concatenation of preorder forms in at most one way. -/
theorem written_flatMap_inj {es es' : List Expr}
    (equal : es.flatMap (written .preorder) = es'.flatMap (written .preorder)) : es = es' := by
  induction es generalizing es' with
  | nil =>
      cases es' with
      | nil => rfl
      | cons e' es' =>
          rw [List.flatMap_cons] at equal
          exact absurd (List.append_eq_nil_iff.mp equal.symm).1 (written_ne_nil .preorder e')
  | cons e es ih =>
      cases es' with
      | nil =>
          rw [List.flatMap_cons] at equal
          exact absurd (List.append_eq_nil_iff.mp equal).1 (written_ne_nil .preorder e)
      | cons e' es' =>
          rw [List.flatMap_cons, List.flatMap_cons] at equal
          obtain ⟨heads, tails⟩ := written_append_inj equal
          rw [heads, ih tails]

end Expr

/-! ## Derivations -/

/-- The grammar `E := digit | op E E`: it generates the text, and the expression is the derivation
tree. -/
inductive Derives : List Char → Expr → Prop
  | digit (d : Fin 10) : Derives [digitChar d] (.leaf d)
  | operator (op : Operator) {x y : List Char} {left right : Expr} :
      Derives x left → Derives y right → Derives (op.toChar :: (x ++ y)) (.node op left right)

theorem derives_iff {text : List Char} {e : Expr} :
    Derives text e ↔ text = e.written .preorder := by
  constructor
  · intro derivation
    induction derivation with
    | digit d => rfl
    | operator op _ _ ihLeft ihRight => rw [ihLeft, ihRight, Expr.written_node]
  · rintro rfl
    induction e with
    | leaf d => exact .digit d
    | node op left right ihLeft ihRight =>
        rw [Expr.written_node]
        exact .operator op ihLeft ihRight

/-- A text has at most one derivation. -/
theorem Derives.unique {text : List Char} {e e' : Expr} (first : Derives text e)
    (second : Derives text e') : e = e' := by
  rw [derives_iff] at first second
  have equal : e.written .preorder ++ [] = e'.written .preorder ++ [] := by
    rw [← first, ← second]
  exact (Expr.written_append_inj equal).1

/-- The text is the concatenation of the words, and the grammar generates each of them. -/
def Splits (text : List Char) (words : List (List Char)) (es : List Expr) : Prop :=
  List.Forall₂ Derives words es ∧ words.flatten = text

/-- A text is split by its expressions into their preorder forms. -/
theorem splits_iff {text : List Char} {words : List (List Char)} {es : List Expr} :
    Splits text words es ↔
      words = es.map (Expr.written .preorder) ∧ text = es.flatMap (Expr.written .preorder) := by
  have relation : Derives = fun text e => text = e.written .preorder := by
    funext text e
    exact propext derives_iff
  rw [Splits, relation, ← List.forall₂_map_right_iff, List.forall₂_eq_eq_eq, List.flatMap_def]
  constructor
  · rintro ⟨rfl, rfl⟩
    exact ⟨rfl, rfl⟩
  · rintro ⟨rfl, rfl⟩
    exact ⟨rfl, rfl⟩

/-- A text is split in at most one way. -/
theorem Splits.unique {text : List Char} {words words' : List (List Char)} {es es' : List Expr}
    (first : Splits text words es) (second : Splits text words' es') :
    words = words' ∧ es = es' := by
  obtain ⟨rfl, written⟩ := splits_iff.mp first
  obtain ⟨rfl, written'⟩ := splits_iff.mp second
  obtain rfl := Expr.written_flatMap_inj (written.symm.trans written')
  exact ⟨rfl, rfl⟩

end PolishCalc
