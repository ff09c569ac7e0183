import Mathlib.Data.List.Perm.Subperm
import PolishCalc.Proofs.Forest
import PolishCalc.Tree.Drawing

/-!
# Folds over a tree

Depth, value, expression and drawing of a tree are one fold over the nodes below its root, with a
bound on the length of a path. Where an expression stands, the bound is never reached and no index
fails to resolve: the fold is the recursion over the expression (`Store.Holds.fold_eq`).
-/

namespace PolishCalc

namespace Expr

/-- Combines the nodes of an expression bottom-up. -/
def fold {β : Type} (onLeaf : Fin 10 → β) (onOperator : Operator → β → β → β) : Expr → β
  | leaf d => onLeaf d
  | node op left right =>
    onOperator op (left.fold onLeaf onOperator) (right.fold onLeaf onOperator)

theorem depth_eq_fold (e : Expr) :
    e.depth = e.fold (fun _ => 1) (fun _ left right => 1 + max left right) := by
  induction e with
  | leaf d => rfl
  | node op left right ihLeft ihRight => rw [depth, fold, ihLeft, ihRight]

theorem value_eq_fold {α : Type} (arithmetic : Arithmetic α) (e : Expr) :
    e.value arithmetic = e.fold arithmetic.digit (fun op => op.apply arithmetic) := by
  induction e with
  | leaf d => rfl
  | node op left right ihLeft ihRight => rw [value, fold, ihLeft, ihRight]

theorem fold_constructors (e : Expr) : e.fold leaf node = e := by
  induction e with
  | leaf d => rfl
  | node op left right ihLeft ihRight => rw [fold, ihLeft, ihRight]

theorem depth_le_size (e : Expr) : e.depth ≤ e.size := by
  induction e with
  | leaf d => exact Nat.le_refl 1
  | node op left right ihLeft ihRight =>
      rw [depth, size]
      omega

end Expr

namespace Store

variable {s : Store} {i : Index} {e : Expr} {cells : List Index} {β : Type}

theorem Holds.foldBelow_eq (holds : s.Holds i e cells) (onLeaf : Fin 10 → β)
    (onOperator : Operator → β → β → β) {fuel : Nat} (enough : e.depth ≤ fuel) :
    s.foldBelow onLeaf onOperator fuel i = .ok (e.fold onLeaf onOperator) := by
  induction holds generalizing fuel with
  | leaf found =>
      cases fuel with
      | zero => exact absurd enough (by simp [Expr.depth])
      | succ fuel =>
          simp only [foldBelow, found]
          rfl
  | @node i l r op left right _ _ found _ _ ihLeft ihRight =>
      rw [Expr.depth] at enough
      cases fuel with
      | zero => omega
      | succ fuel =>
          have enoughLeft : left.depth ≤ fuel := by omega
          have enoughRight : right.depth ≤ fuel := by omega
          simp only [foldBelow, found, ihLeft enoughLeft, ihRight enoughRight]
          rfl

/-- An expression without repeated nodes has at most as many nodes as there are slots. -/
theorem Holds.size_le_next (holds : s.Holds i e cells) (distinct : cells.Nodup) :
    e.size ≤ s.next := by
  have within : cells ⊆ List.range s.next := by
    intro j member
    obtain ⟨_, found⟩ := holds.live member
    exact List.mem_range.mpr (lt_next_of_get? found)
  have bound := (distinct.subperm within).length_le
  rwa [holds.length_cells, List.length_range] at bound

/-- A fold below an index is the recursion over the expression that stands there. -/
theorem Holds.fold_eq (holds : s.Holds i e cells) (distinct : cells.Nodup) (onLeaf : Fin 10 → β)
    (onOperator : Operator → β → β → β) :
    s.fold onLeaf onOperator i = .ok (e.fold onLeaf onOperator) :=
  holds.foldBelow_eq onLeaf onOperator (Nat.le_trans e.depth_le_size (holds.size_le_next distinct))

end Store

namespace Tree.Represents

variable {t : Tree} {e : Expr}

theorem depth_eq (represents : t.Represents e) : t.depth = .ok e.depth := by
  obtain ⟨_, _, rooted, holds, distinct, _⟩ := represents
  rw [Tree.depth, rooted, Expr.depth_eq_fold]
  exact holds.fold_eq distinct _ _

theorem evaluate_eq {α : Type} (arithmetic : Arithmetic α) (represents : t.Represents e) :
    t.evaluate arithmetic = .ok (e.value arithmetic) := by
  obtain ⟨_, _, rooted, holds, distinct, _⟩ := represents
  rw [Tree.evaluate, rooted, Expr.value_eq_fold]
  exact holds.fold_eq distinct _ _

theorem toExpr_eq (represents : t.Represents e) : t.toExpr = .ok e := by
  obtain ⟨_, _, rooted, holds, distinct, _⟩ := represents
  rw [Tree.toExpr, rooted]
  conv => rhs; rw [← e.fold_constructors]
  exact holds.fold_eq distinct _ _

theorem drawing_eq (represents : t.Represents e) :
    t.drawing = .ok (e.fold (fun d => [(digitChar d).toString]) Drawing.join) := by
  obtain ⟨_, _, rooted, holds, distinct, _⟩ := represents
  rw [Tree.drawing, rooted]
  exact holds.fold_eq distinct _ _

end Tree.Represents

end PolishCalc
