import PolishCalc.Proofs.Fold
import PolishCalc.Proofs.Reading

/-!
# Values without a tree

A text is evaluated in one pass from its last character to its first, with a stack of values in
place of a stack of trees. The number system is arbitrary, so operands cannot be swapped or
regrouped.

* **one step** — a digit pushes its value, and an operator combines the two topmost values, the
  upper one on the left (`stepValues_digit`, `stepValues_operator`);
* **invariant** — the stack holds the values of the expressions whose preorder forms, one after
  another, are the text taken in so far (`runValues_written`, `runValues_sound`);
* **trees** — the top of the stack at the end is the value of the tree that lenient reading keeps
  (`Tree.evaluate_eq_top`).
-/

namespace PolishCalc

namespace Scan

variable {α : Type} (arithmetic : Arithmetic α)

/-- Takes in one character, with values in place of trees. -/
def stepValues (values : List α) (c : Char) : Option (List α) :=
  match Symbol.ofChar? c with
  | none => none
  | some (.digit d) => some (arithmetic.digit d :: values)
  | some (.operator op) =>
    match values with
    | first :: second :: rest => some (op.apply arithmetic first second :: rest)
    | _ => none

/-- Takes in a text, last character first. -/
def runValues (text : List Char) : Option (List α) :=
  text.reverse.foldlM (stepValues arithmetic) []

/-! ## One step -/

theorem stepValues_digit (values : List α) (d : Fin 10) :
    stepValues arithmetic values (digitChar d) = some (arithmetic.digit d :: values) := by
  simp only [stepValues, Symbol.ofChar?_digitChar]

theorem stepValues_operator (first second : α) (rest : List α) (op : Operator) :
    stepValues arithmetic (first :: second :: rest) op.toChar =
      some (op.apply arithmetic first second :: rest) := by
  simp only [stepValues, Symbol.ofChar?_operatorChar]

/-- What a step that succeeds has done. -/
theorem stepValues_cases {values values' : List α} {c : Char}
    (success : stepValues arithmetic values c = some values') :
    (∃ d, c = digitChar d ∧ values' = arithmetic.digit d :: values) ∨
      ∃ op first second rest, c = Operator.toChar op ∧ values = first :: second :: rest ∧
        values' = op.apply arithmetic first second :: rest := by
  rcases Symbol.char_cases c with ⟨d, rfl⟩ | ⟨op, rfl⟩ | unknown
  · rw [stepValues_digit] at success
    exact .inl ⟨d, rfl, (Option.some.inj success).symm⟩
  · match values with
    | first :: second :: rest =>
        rw [stepValues_operator] at success
        exact .inr ⟨op, first, second, rest, rfl, rfl, (Option.some.inj success).symm⟩
    | [_] => simp [stepValues] at success
    | [] => simp [stepValues] at success
  · simp [stepValues, unknown] at success

/-! ## A whole text -/

theorem runValues_cons (c : Char) (text : List Char) :
    runValues arithmetic (c :: text) =
      (runValues arithmetic text).bind fun values => stepValues arithmetic values c := by
  simp only [runValues, List.reverse_cons, List.foldlM_append, List.foldlM_cons, List.foldlM_nil,
    bind_pure]
  rfl

/-- The preorder form of an expression puts its value on top of the stack. -/
theorem runValues_written (e : Expr) {text : List Char} {values : List α}
    (suffix : runValues arithmetic text = some values) :
    runValues arithmetic (e.written .preorder ++ text) =
      some (e.value arithmetic :: values) := by
  -- the right operand is taken in before the left one, so text and stack are arbitrary
  induction e generalizing text values with
  | leaf d =>
      rw [Expr.written_leaf, List.singleton_append, runValues_cons, suffix, Option.bind_some,
        stepValues_digit]
      rfl
  | node op left right ihLeft ihRight =>
      have operands := ihLeft (ihRight suffix)
      rw [Expr.written_node, List.cons_append, List.append_assoc, runValues_cons, operands,
        Option.bind_some, stepValues_operator]
      rfl

/-- A concatenation of preorder forms leaves the values of its expressions on the stack. -/
theorem runValues_flatMap (es : List Expr) :
    runValues arithmetic (es.flatMap (Expr.written .preorder)) =
      some (es.map (Expr.value arithmetic)) := by
  induction es with
  | nil => rfl
  | cons e es ih =>
      rw [List.flatMap_cons, List.map_cons]
      exact runValues_written arithmetic e ih

/-- A pass that succeeds leaves the values of expressions that make up its text. -/
theorem runValues_sound {text : List Char} {values : List α}
    (success : runValues arithmetic text = some values) :
    ∃ es : List Expr, values = es.map (Expr.value arithmetic) ∧
      text = es.flatMap (Expr.written .preorder) := by
  induction text generalizing values with
  | nil =>
      obtain rfl := Option.some.inj success
      exact ⟨[], rfl, rfl⟩
  | cons c text ih =>
      rw [runValues_cons] at success
      obtain ⟨before, suffix, step⟩ := Option.bind_eq_some_iff.mp success
      obtain ⟨es, rfl, rfl⟩ := ih suffix
      rcases stepValues_cases arithmetic step with ⟨d, rfl, rfl⟩ | ⟨op, _, _, _, rfl, stacked, rfl⟩
      · exact ⟨.leaf d :: es, rfl, rfl⟩
      · -- two values on the stack are the values of two expressions
        match es, stacked with
        | left :: right :: es, rfl =>
            refine ⟨.node op left right :: es, rfl, ?_⟩
            simp only [List.flatMap_cons, Expr.written_node, List.cons_append, List.append_assoc]

end Scan

namespace Tree

/-- One pass with values against reading and evaluating a tree. The pass leaves a value exactly if
lenient reading succeeds; then the topmost value is that of the tree, and it is the value of the
first expression of the text, computed operand by operand. -/
theorem evaluate_eq_top {α : Type} (arithmetic : Arithmetic α) (text : String) :
    ((∃ t, Tree.read false text = .ok t) ↔
        ∃ v rest, Scan.runValues arithmetic text.toList = some (v :: rest)) ∧
      ∀ t, Tree.read false text = .ok t →
        ∃ v rest, Scan.runValues arithmetic text.toList = some (v :: rest) ∧
          t.evaluate arithmetic = .ok v ∧
          ∃ first words e es, Splits text.toList (first :: words) (e :: es) ∧
            v = e.value arithmetic := by
  have top : ∀ e es, text.toList = List.flatMap (Expr.written .preorder) (e :: es) →
      Scan.runValues arithmetic text.toList =
        some (e.value arithmetic :: es.map (Expr.value arithmetic)) := by
    intro e es decomposed
    rw [decomposed]
    exact Scan.runValues_flatMap arithmetic (e :: es)
  refine ⟨⟨?_, ?_⟩, ?_⟩
  · rintro ⟨t, success⟩
    obtain ⟨e, es, decomposed⟩ := flatMap_of_read success
    exact ⟨_, _, top e es decomposed⟩
  · rintro ⟨v, rest, ran⟩
    obtain ⟨es, values, decomposed⟩ := Scan.runValues_sound arithmetic ran
    cases es with
    | nil => cases values
    | cons e es =>
        obtain ⟨t, lenient, _, _⟩ := read_flatMap decomposed
        exact ⟨t, lenient⟩
  · intro t success
    obtain ⟨e, es, decomposed, represents, _⟩ := represents_of_read success
    exact ⟨_, _, top e es decomposed, represents.evaluate_eq arithmetic, _, _, e, es,
      splits_iff.mpr ⟨rfl, decomposed⟩, rfl⟩

/-- In the integers, a quotient of a difference and a digit, and a digit that is left over. -/
theorem evaluate_eq_top_quotient :
    let integers : Arithmetic Int :=
      { digit := fun d => d.val, add := (· + ·), sub := (· - ·), mul := (· * ·), div := (· / ·) }
    ∃ t, Tree.read false "/-9135" = .ok t ∧ t.evaluate integers = .ok 2 ∧
      Scan.runValues integers "/-9135".toList = some [2, 5] := by
  intro integers
  have ran : Scan.runValues integers "/-9135".toList = some [2, 5] := by decide
  obtain ⟨accepted, values⟩ := evaluate_eq_top integers "/-9135"
  obtain ⟨t, success⟩ := accepted.mpr ⟨2, [5], ran⟩
  obtain ⟨v, rest, ran', evaluated, _⟩ := values t success
  obtain ⟨rfl, _⟩ := List.cons.inj (Option.some.inj (ran'.symm.trans ran))
  exact ⟨t, success, evaluated, ran⟩

end Tree

end PolishCalc
