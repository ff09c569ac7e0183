import Mathlib.Data.List.Perm.Basic
import PolishCalc.Proofs.Interleaving
import PolishCalc.Proofs.Outcome

/-!
# The three written forms

How the three written forms of one tree go together. An order moves the operators only: around the
same digits in the same order, it puts each operator before, between or after its operands.

* **symbols** — the forms have the same symbols (`Expr.symbols_perm`), and without its operators
  each of them is the row of the digits at the leaves (`Expr.withoutOperators_written`);
* **alternation** — `Alternates text`: digits with one operator between each two neighbours. The
  inorder form is such a text, as an operator joins two of them (`Alternates.join`);
* **trees** — the forms of a tree that was read (`Tree.forms_related`).
-/

namespace PolishCalc

/-! ## Symbols -/

/-- A text without its operators. -/
def withoutOperators (text : List Char) : List Char :=
  text.filter fun c => !Scan.isOperatorChar c

theorem withoutOperators_digitChar (d : Fin 10) :
    withoutOperators [digitChar d] = [digitChar d] := by
  simp [withoutOperators, Scan.isDigit_digitChar]

theorem withoutOperators_operatorChar (op : Operator) : withoutOperators [op.toChar] = [] := by
  simp [withoutOperators, Scan.isOperatorChar_toChar]

theorem withoutOperators_append (text text' : List Char) :
    withoutOperators (text ++ text') = withoutOperators text ++ withoutOperators text' :=
  List.filter_append _ _

namespace Expr

/-- The digits at the leaves, from left to right. -/
def digits : Expr → List (Fin 10)
  | leaf d => [d]
  | node _ left right => left.digits ++ right.digits

/-- An operator stands before, between or after the forms of its operands. -/
theorem exists_written_node (order : Order) (op : Operator) (left right : Expr) :
    ∃ before between after, (node op left right).written order =
        before ++ left.written order ++ between ++ right.written order ++ after ∧
      before ++ between ++ after = [op.toChar] := by
  cases order with
  | preorder => exact ⟨[op.toChar], [], [], by simp [written, symbols, Symbol.toChar], rfl⟩
  | inorder => exact ⟨[], [op.toChar], [], by simp [written, symbols, Symbol.toChar], rfl⟩
  | postorder => exact ⟨[], [], [op.toChar], by simp [written, symbols, Symbol.toChar], rfl⟩

theorem written_inorder_node (op : Operator) (left right : Expr) :
    (node op left right).written .inorder =
      left.written .inorder ++ op.toChar :: right.written .inorder := by
  simp [written, symbols, Symbol.toChar]

/-- Every form has the symbols of the prefix form. -/
theorem symbols_perm (order : Order) (e : Expr) :
    (e.symbols order).Perm (e.symbols .preorder) := by
  induction e with
  | leaf d => exact .refl _
  | node op left right ihLeft ihRight =>
      have operands := ihLeft.append ihRight
      cases order with
      | preorder => exact .refl _
      | inorder => exact List.perm_middle.trans (operands.cons _)
      | postorder => exact List.perm_append_comm.trans (operands.cons _)

theorem written_perm (order order' : Order) (e : Expr) :
    (e.written order).Perm (e.written order') :=
  ((e.symbols_perm order).trans (e.symbols_perm order').symm).map _

/-- Without its operators each form is the row of the digits. -/
theorem withoutOperators_written (order : Order) (e : Expr) :
    withoutOperators (e.written order) = e.digits.map digitChar := by
  induction e with
  | leaf d => exact withoutOperators_digitChar d
  | node op left right ihLeft ihRight =>
      obtain ⟨before, between, after, form, operator⟩ := exists_written_node order op left right
      -- what stands around the operands is the operator, which goes away
      have removed := withoutOperators_operatorChar op
      rw [← operator, withoutOperators_append, withoutOperators_append, List.append_eq_nil_iff,
        List.append_eq_nil_iff] at removed
      obtain ⟨⟨noBefore, noBetween⟩, noAfter⟩ := removed
      simp only [form, withoutOperators_append, noBefore, noBetween, noAfter, ihLeft, ihRight,
        List.nil_append, List.append_nil, digits, List.map_append]

end Expr

/-! ## Alternation -/

/-- A digit, or a digit and an operator before such a text. -/
inductive Alternates : List Char → Prop
  | digit (d : Fin 10) : Alternates [digitChar d]
  | step (d : Fin 10) (op : Operator) {text : List Char} :
      Alternates text → Alternates (digitChar d :: op.toChar :: text)

/-- An operator joins two such texts. -/
theorem Alternates.join {text text' : List Char} (left : Alternates text) (op : Operator)
    (right : Alternates text') : Alternates (text ++ op.toChar :: text') := by
  induction left with
  | digit d => exact .step d op right
  | step d op' _ ih => exact .step d op' ih

theorem Expr.alternates_written (e : Expr) : Alternates (e.written .inorder) := by
  induction e with
  | leaf d => exact .digit d
  | node op left right ihLeft ihRight =>
      rw [written_inorder_node]
      exact ihLeft.join op ihRight

/-! ## Trees -/

/-- The three forms of a tree that was read are rearrangements of one another. Without operators
they are the digits at its leaves, from left to right, and in the inorder form digits and operators
alternate. -/
theorem Tree.forms_related {strict : Bool} {text : String} {t : Tree}
    (success : Tree.read strict text = .ok t) :
    ∃ (form : Order → String) (e : Expr),
      (∀ order, t.render order = .ok (form order)) ∧ t.toExpr = .ok e ∧
      (∀ order order', (form order).toList.Perm (form order').toList) ∧
      (∀ order, withoutOperators (form order).toList = e.digits.map digitChar) ∧
      Alternates (form .inorder).toList := by
  obtain ⟨e, _, _, represents, _⟩ := represents_of_read success
  refine ⟨fun order => String.ofList (e.written order), e, represents.render_eq,
    represents.toExpr_eq, ?_⟩
  simp only [String.toList_ofList]
  refine ⟨?_, ?_, e.alternates_written⟩
  · intro order order'
    exact e.written_perm order order'
  · intro order
    exact e.withoutOperators_written order

/-- A difference with a sum on either side. -/
theorem Tree.forms_related_difference :
    ∃ t, Tree.read true "-+12+34" = .ok t ∧ t.render .inorder = .ok "1+2-3+4" ∧
      t.render .postorder = .ok "12+34+-" ∧ "1+2-3+4".toList.Perm "12+34+-".toList ∧
      withoutOperators "1+2-3+4".toList = withoutOperators "12+34+-".toList ∧
      Alternates "1+2-3+4".toList := by
  have success : ∃ t, Tree.read true "-+12+34" = .ok t ∧ t.render .inorder = .ok "1+2-3+4" ∧
      t.render .postorder = .ok "12+34+-" :=
    ⟨_, rfl, by decide +kernel, by decide +kernel⟩
  obtain ⟨t, success, infixForm, postfixForm⟩ := success
  obtain ⟨form, e, rendered, -, perm, kept, alternates⟩ := forms_related success
  have inorder : form .inorder = "1+2-3+4" := Except.ok.inj ((rendered _).symm.trans infixForm)
  have postorder : form .postorder = "12+34+-" :=
    Except.ok.inj ((rendered _).symm.trans postfixForm)
  rw [← inorder, ← postorder]
  exact ⟨t, success, rendered _, rendered _, perm _ _, (kept _).trans (kept _).symm, alternates⟩

end PolishCalc
