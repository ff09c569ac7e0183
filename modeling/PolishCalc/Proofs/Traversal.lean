import PolishCalc.Proofs.Fold
import PolishCalc.Tree.Traversal

/-!
# What a traversal yields

A suspended traversal against the recursion over the expression.

* **what is due** — `Traversal.Due s order pending symbols`: the entries of the stack, in this order,
  still stand for `symbols`. An unvisited entry stands for all symbols below its index, a visited one
  for its own;
* **one call** — taking a symbol leaves the symbols after it due (`Traversal.Yields.next_cons`), and
  at the end nothing is taken (`Traversal.Yields.next_nil`);
* **many calls** — what was taken and what is due are the same together (`Traversal.Takes.yields`);
* **start** — the traversal of a tree yields the symbols of its expression
  (`Tree.Represents.yields`).
-/

namespace PolishCalc

namespace Traversal

/-- The pending entries still stand for the symbols. Every expression below an unvisited entry is
shallow enough for the bound of one call. -/
inductive Due (s : Store) (order : Order) : List (Index × Bool) → List Symbol → Prop
  | nil : Due s order [] []
  | unvisited {i : Index} {e : Expr} {cells : List Index} {rest : List (Index × Bool)}
      {symbols : List Symbol} :
      s.Holds i e cells → e.depth ≤ s.next → Due s order rest symbols →
      Due s order ((i, false) :: rest) (e.symbols order ++ symbols)
  | visited {i l r : Index} {op : Operator} {rest : List (Index × Bool)} {symbols : List Symbol} :
      s.get? i = some (.operator op l r) → Due s order rest symbols →
      Due s order ((i, true) :: rest) (.operator op :: symbols)

theorem advance_visited {s : Store} {i l r : Index} {op : Operator}
    (found : s.get? i = some (.operator op l r)) (order : Order) (fuel : Nat)
    (rest : List (Index × Bool)) :
    advance s order fuel ((i, true) :: rest) = .ok (some (.operator op, rest)) := by
  cases fuel <;> simp only [advance, found, if_true]

/-- From an unvisited entry a call goes down to the first symbol below it and leaves the others
due. -/
theorem advance_unvisited {s : Store} {order : Order} {fuel : Nat} {i : Index} {e : Expr}
    {cells : List Index} {rest : List (Index × Bool)} {symbols : List Symbol}
    (holds : s.Holds i e cells) (enough : e.depth ≤ fuel) (shallow : e.depth ≤ s.next)
    (due : Due s order rest symbols) :
    ∃ first later pending, e.symbols order ++ symbols = first :: later ∧
      advance s order fuel ((i, false) :: rest) = .ok (some (first, pending)) ∧
      Due s order pending later := by
  induction holds generalizing fuel rest symbols with
  | leaf found =>
      refine ⟨_, symbols, rest, rfl, ?_, due⟩
      cases fuel <;> simp only [advance, found]
  | @node i l r op left right _ _ found heldLeft heldRight ihLeft _ =>
      rw [Expr.depth] at enough shallow
      have shallowLeft : left.depth ≤ s.next := by omega
      have shallowRight : right.depth ≤ s.next := by omega
      cases fuel with
      | zero => omega
      | succ fuel =>
          have enoughLeft : left.depth ≤ fuel := by omega
          have expanded : advance s order (fuel + 1) ((i, false) :: rest) =
              advance s order fuel (expand order i l r ++ rest) := by
            simp only [advance, found, Bool.false_eq_true, if_false]
          rw [expanded]
          -- the order decides which entry is on top now
          cases order with
          | preorder =>
              have after : Due s .preorder ((l, false) :: (r, false) :: rest)
                  (left.symbols .preorder ++ (right.symbols .preorder ++ symbols)) :=
                .unvisited heldLeft shallowLeft (.unvisited heldRight shallowRight due)
              refine ⟨.operator op, _, _, ?_, advance_visited found _ _ _, after⟩
              rw [Expr.symbols, List.cons_append, List.append_assoc]
          | inorder =>
              have after : Due s .inorder ((i, true) :: (r, false) :: rest)
                  (.operator op :: (right.symbols .inorder ++ symbols)) :=
                .visited found (.unvisited heldRight shallowRight due)
              rw [Expr.symbols, List.append_assoc, List.cons_append]
              exact ihLeft enoughLeft shallowLeft after
          | postorder =>
              have after : Due s .postorder ((r, false) :: (i, true) :: rest)
                  (right.symbols .postorder ++ .operator op :: symbols) :=
                .unvisited heldRight shallowRight (.visited found due)
              rw [Expr.symbols, List.append_assoc, List.append_assoc, List.singleton_append]
              exact ihLeft enoughLeft shallowLeft after

/-- One call takes the first symbol that is due, if there is one. -/
theorem Due.advance {s : Store} {order : Order} {pending : List (Index × Bool)}
    {symbols : List Symbol} (due : Due s order pending symbols) :
    (symbols = [] ∧ Traversal.advance s order s.next pending = .ok none) ∨
      ∃ first later pending', symbols = first :: later ∧
        Traversal.advance s order s.next pending = .ok (some (first, pending')) ∧
        Due s order pending' later := by
  cases due with
  | nil => exact .inl ⟨rfl, by rw [Traversal.advance]⟩
  | unvisited holds shallow due => exact .inr (advance_unvisited holds shallow shallow due)
  | visited found due => exact .inr ⟨_, _, _, rfl, advance_visited found _ _ _, due⟩

/-- The traversal still yields these symbols. -/
def Yields (t : Traversal) (symbols : List Symbol) : Prop :=
  Due t.store t.order t.pending symbols

theorem Yields.next_nil {t : Traversal} (yields : t.Yields []) : t.next = .ok none := by
  rcases yields.advance with ⟨_, taken⟩ | ⟨_, _, _, equal, _⟩
  · rw [Traversal.next, taken]
    rfl
  · cases equal

theorem Yields.next_cons {t : Traversal} {first : Symbol} {later : List Symbol}
    (yields : t.Yields (first :: later)) :
    ∃ t', t.next = .ok (some (first, t')) ∧ t'.Yields later := by
  rcases yields.advance with ⟨equal, _⟩ | ⟨_, _, pending, equal, taken, due⟩
  · cases equal
  · obtain ⟨rfl, rfl⟩ := List.cons.inj equal
    refine ⟨{ t with pending }, ?_, due⟩
    rw [Traversal.next, taken]
    rfl

/-- Calls that take the given symbols, in this order, lead from one state to another. -/
inductive Takes : Traversal → List Symbol → Traversal → Prop
  | start (t : Traversal) : Takes t [] t
  | call {t t' t'' : Traversal} {taken : List Symbol} {symbol : Symbol} :
      Takes t taken t' → t'.next = .ok (some (symbol, t'')) → Takes t (taken ++ [symbol]) t''

/-- From call to call the symbols that were taken and those still due are the same together. -/
theorem Takes.yields {t t' : Traversal} {taken symbols : List Symbol} (takes : t.Takes taken t')
    (yields : t.Yields symbols) : ∃ later, symbols = taken ++ later ∧ t'.Yields later := by
  induction takes with
  | start => exact ⟨symbols, rfl, yields⟩
  | @call t' t'' taken symbol _ next ih =>
      obtain ⟨due, rfl, yields'⟩ := ih
      cases due with
      | nil =>
          rw [yields'.next_nil] at next
          cases next
      | cons first later =>
          obtain ⟨t₁, next₁, yields₁⟩ := yields'.next_cons
          rw [next₁] at next
          cases next
          exact ⟨later, by rw [List.append_assoc, List.singleton_append], yields₁⟩

/-- A traversal that has its symbols due answers a call. -/
theorem Yields.next_ok {t : Traversal} {symbols : List Symbol} (yields : t.Yields symbols) :
    ∃ answer, t.next = .ok answer := by
  cases symbols with
  | nil => exact ⟨none, yields.next_nil⟩
  | cons first later =>
      obtain ⟨t', taken, _⟩ := yields.next_cons
      exact ⟨_, taken⟩

end Traversal

/-- The traversal of a tree yields the symbols of its expression. -/
theorem Tree.Represents.yields {t : Tree} {e : Expr} (represents : t.Represents e)
    (order : Order) : (t.traverse order).Yields (e.symbols order) := by
  obtain ⟨root, _, rooted, holds, distinct, _⟩ := represents
  have shallow := Nat.le_trans e.depth_le_size (holds.size_le_next distinct)
  rw [← List.append_nil (e.symbols order), Traversal.Yields, Tree.traverse, rooted]
  exact .unvisited holds shallow .nil

end PolishCalc
