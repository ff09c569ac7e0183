import PolishCalc.Proofs.Interleaving
import PolishCalc.Proofs.Path

/-!
# Decoding postorder forms

A postorder form is decoded in one pass from its first character to its last, with a stack. What is
put on the stack is arbitrary: trees of the form's own operators, or the values of any number
system. An operator takes its right operand from the top of the stack and its left one from below.

* **one step** — a digit and an operator with its operands (`Postorder.step_digit`,
  `Postorder.step_operator`);
* **invariant** — the postorder form of an expression acts on any stack as one push of what the
  expression stands for (`Postorder.foldlM_written`), so it leaves exactly that on an empty one
  (`Postorder.scan_written`), and no two expressions have the same postorder form
  (`Expr.written_postorder_inj`);
* **trees** — the postorder form of a tree that was read decodes to this tree and to its value
  (`Tree.postorder_faithful`).
-/

namespace PolishCalc

namespace Postorder

variable {β : Type} (onLeaf : Fin 10 → β) (onOperator : Operator → β → β → β)

/-- Takes in one character. -/
def step (stack : List β) (c : Char) : Option (List β) :=
  match Symbol.ofChar? c with
  | none => none
  | some (.digit d) => some (onLeaf d :: stack)
  | some (.operator op) =>
    match stack with
    | right :: left :: rest => some (onOperator op left right :: rest)
    | _ => none

/-- Takes in a text, first character first. -/
def scan (text : List Char) : Option (List β) :=
  text.foldlM (step onLeaf onOperator) []

theorem step_digit (stack : List β) (d : Fin 10) :
    step onLeaf onOperator stack (digitChar d) = some (onLeaf d :: stack) := by
  unfold step
  rw [Symbol.ofChar?_digitChar]

theorem step_operator (left right : β) (rest : List β) (op : Operator) :
    step onLeaf onOperator (right :: left :: rest) op.toChar =
      some (onOperator op left right :: rest) := by
  unfold step
  rw [Symbol.ofChar?_operatorChar]

/-- The postorder form of an expression is one push, whatever is on the stack. -/
theorem foldlM_written (e : Expr) (stack : List β) :
    (e.written .postorder).foldlM (step onLeaf onOperator) stack =
      some (e.fold onLeaf onOperator :: stack) := by
  -- the right operand finds the left one on the stack, so the stack is arbitrary
  induction e generalizing stack with
  | leaf d =>
      show (step onLeaf onOperator stack (digitChar d)).bind some = _
      rw [step_digit]
      rfl
  | node op left right ihLeft ihRight =>
      have form : (Expr.node op left right).written .postorder =
          left.written .postorder ++ (right.written .postorder ++ [op.toChar]) := by
        simp [Expr.written, Expr.symbols, Symbol.toChar]
      rw [form, List.foldlM_append, ihLeft, Option.bind_eq_bind, Option.bind_some,
        List.foldlM_append, ihRight, Option.bind_eq_bind, Option.bind_some]
      show (step onLeaf onOperator (_ :: _ :: stack) op.toChar).bind some = _
      rw [step_operator]
      rfl

theorem scan_written (e : Expr) :
    scan onLeaf onOperator (e.written .postorder) = some [e.fold onLeaf onOperator] :=
  foldlM_written onLeaf onOperator e []

end Postorder

/-- An expression is determined by its postorder form. -/
theorem Expr.written_postorder_inj {e e' : Expr}
    (equal : e.written .postorder = e'.written .postorder) : e = e' := by
  have decoded := Postorder.scan_written leaf node e
  rw [equal, Postorder.scan_written, fold_constructors, fold_constructors] at decoded
  exact ((List.cons.inj (Option.some.inj decoded)).1).symm

/-- The postorder form of a tree that was read is a faithful encoding of it. Decoding the form with
trees leaves this tree alone on the stack, node by node the same, and decoding it with the values of
any number system leaves the value of the tree. Every tree that was read and has the same postorder
form has the same preorder form, inorder form and value. -/
theorem Tree.postorder_faithful {strict : Bool} {text : String} {t : Tree}
    (success : Tree.read strict text = .ok t) :
    ∃ form e, t.render .postorder = .ok form ∧
      Postorder.scan Expr.leaf Expr.node form.toList = some [e] ∧
      t.toExpr = .ok e ∧ t.Represents e ∧
      (∀ path, (t.nodeAt? path).map Node.symbol = (e.at? path).map Expr.symbol) ∧
      (∀ (α : Type) (arithmetic : Arithmetic α), ∃ v, t.evaluate arithmetic = .ok v ∧
        Postorder.scan arithmetic.digit (fun op => op.apply arithmetic) form.toList = some [v]) ∧
      ∀ (strict' : Bool) (text' : String) (t' : Tree), Tree.read strict' text' = .ok t' →
        t'.render .postorder = .ok form →
        t'.render .preorder = t.render .preorder ∧ t'.render .inorder = t.render .inorder ∧
          ∀ (α : Type) (arithmetic : Arithmetic α),
            t'.evaluate arithmetic = t.evaluate arithmetic := by
  obtain ⟨e, _, _, represents, _⟩ := Tree.represents_of_read success
  have form : (String.ofList (e.written .postorder)).toList = e.written .postorder :=
    String.toList_ofList
  refine ⟨String.ofList (e.written .postorder), e, represents.render_eq .postorder, ?_,
    represents.toExpr_eq, represents, represents.nodeAt?_symbol, ?_, ?_⟩
  · rw [form, Postorder.scan_written, e.fold_constructors]
  · intro α arithmetic
    refine ⟨e.value arithmetic, represents.evaluate_eq arithmetic, ?_⟩
    rw [form, Postorder.scan_written, Expr.value_eq_fold]
  · intro strict' text' t' success' rendered
    obtain ⟨e', _, _, represents', _⟩ := Tree.represents_of_read success'
    -- equal forms are forms of one expression, and all else is determined by that
    have equal : e'.written .postorder = e.written .postorder := by
      rw [represents'.render_eq] at rendered
      exact String.ofList_inj.mp (Except.ok.inj rendered)
    obtain rfl := Expr.written_postorder_inj equal
    refine ⟨?_, ?_, ?_⟩
    · rw [represents'.render_eq, represents.render_eq]
    · rw [represents'.render_eq, represents.render_eq]
    · intro α arithmetic
      rw [represents'.evaluate_eq, represents.evaluate_eq]

/-- The difference of a quotient and a digit: neither operator can be decoded with its operands the
other way round. -/
theorem Tree.postorder_faithful_quotient :
    ∃ t, Tree.read true "-/923" = .ok t ∧ t.render .postorder = .ok "92/3-" ∧
      Postorder.scan Expr.leaf Expr.node "92/3-".toList =
        some [Expr.node .sub (.node .div (.leaf 9) (.leaf 2)) (.leaf 3)] ∧
      t.toExpr = .ok (.node .sub (.node .div (.leaf 9) (.leaf 2)) (.leaf 3)) := by
  have success : ∃ t, Tree.read true "-/923" = .ok t ∧ t.render .postorder = .ok "92/3-" :=
    ⟨_, rfl, by decide +kernel⟩
  obtain ⟨t, success, rendered⟩ := success
  obtain ⟨form, e, rendered', decoded, expression, _⟩ := postorder_faithful success
  obtain rfl : form = "92/3-" := Except.ok.inj (rendered'.symm.trans rendered)
  have decoding : Postorder.scan Expr.leaf Expr.node "92/3-".toList =
      some [Expr.node .sub (.node .div (.leaf 9) (.leaf 2)) (.leaf 3)] := by decide +kernel
  obtain ⟨rfl, _⟩ := List.cons.inj (Option.some.inj (decoded.symm.trans decoding))
  exact ⟨t, success, rendered, decoding, expression⟩

end PolishCalc
