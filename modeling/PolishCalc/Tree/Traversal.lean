import PolishCalc.Tree

/-!
# Traversals

A traversal yields the symbols of a tree one at a time and can be resumed at any point. It keeps a
stack of indices, each marked as visited or not: a leaf or a visited node is yielded when it is
taken from the stack, and an operator that is not yet visited puts itself and its operands back in
the order in which they are due. Any number of traversals of one tree are independent of one
another, because a traversal is a value.
-/

namespace PolishCalc

/-- A suspended traversal: the indices that are still due, the next one first. -/
structure Traversal where
  store : Store
  order : Order
  pending : List (Index × Bool)

namespace Traversal

/-- What an operator that is not yet visited is replaced by. -/
def expand (order : Order) (i left right : Index) : List (Index × Bool) :=
  match order with
  | .preorder => [(i, true), (left, false), (right, false)]
  | .inorder => [(left, false), (i, true), (right, false)]
  | .postorder => [(left, false), (right, false), (i, true)]

/-- Takes indices from the stack until a symbol is due. `fuel` bounds how many operators are
expanded on the way down to it. -/
def advance (store : Store) (order : Order) :
    (fuel : Nat) → List (Index × Bool) → Except ExprError (Option (Symbol × List (Index × Bool)))
  | _, [] => .ok none
  | fuel, (i, visited) :: rest =>
    match store.get? i with
    | none => .error .brokenTree
    | some (.leaf d) => .ok (some (.digit d, rest))
    | some (.operator op left right) =>
      if visited then
        .ok (some (.operator op, rest))
      else
        match fuel with
        | 0 => .error .brokenTree
        | fuel + 1 => advance store order fuel (expand order i left right ++ rest)

/-- The next symbol and the traversal that yields the symbols after it, or `none` at the end. Below
one symbol at most as many operators are expanded as there are slots. -/
def next (t : Traversal) : Except ExprError (Option (Symbol × Traversal)) := do
  match ← advance t.store t.order t.store.next t.pending with
  | none => return none
  | some (symbol, pending) => return some (symbol, { t with pending })

/-- What a traversal still yields, if that are at most `fuel` symbols. -/
def collect : (fuel : Nat) → Traversal → Except ExprError (List Symbol)
  | 0, _ => .error .brokenTree
  | fuel + 1, t => do
    match ← t.next with
    | none => return []
    | some (symbol, rest) => return symbol :: (← collect fuel rest)

/-- What a traversal still yields: no more symbols than there are slots. -/
def toList (t : Traversal) : Except ExprError (List Symbol) :=
  t.collect (t.store.next + 1)

end Traversal

namespace Tree

/-- The traversal of a tree from its root. -/
def traverse (t : Tree) (order : Order) : Traversal where
  store := t.store
  order := order
  pending := t.root.toList.map fun root => (root, false)

/-- The written form of a tree in a given order. -/
def render (t : Tree) (order : Order) : Except ExprError String := do
  return String.ofList ((← (t.traverse order).toList).map Symbol.toChar)

end Tree

end PolishCalc
