import PolishCalc.Symbol

/-!
# Expressions

The meaning of an expression text: a tree with digits at its leaves and operators inside. The
functions here are plain structural recursions, the second side of what the node store, the scan
and the traversal compute with indices and stacks.
-/

namespace PolishCalc

/-- An expression over single digits. -/
inductive Expr where
  | leaf (digit : Fin 10)
  | node (op : Operator) (left right : Expr)
  deriving DecidableEq, Repr

/-- The three orders in which the nodes of a tree are written: the root before, between or after its
operands. -/
inductive Order where
  | preorder
  | inorder
  | postorder
  deriving DecidableEq, Repr

namespace Order

/-- The order that is used where none is named. -/
def standard : Order := .preorder

/-- The three orders. -/
def all : List Order := [.preorder, .inorder, .postorder]

/-- The customary name of the written form. -/
def name : Order → String
  | .preorder => "prefix"
  | .inorder => "infix"
  | .postorder => "postfix"

/-- The order with a given name. -/
def ofName? (text : String) : Option Order :=
  all.find? fun order => order.name == text

theorem ofName?_name (order : Order) : ofName? order.name = some order := by
  cases order <;> rfl

end Order

namespace Expr

/-- The number of nodes. -/
def size : Expr → Nat
  | leaf _ => 1
  | node _ left right => 1 + left.size + right.size

/-- The number of nodes on a longest path from the root. -/
def depth : Expr → Nat
  | leaf _ => 1
  | node _ left right => 1 + max left.depth right.depth

/-- The symbol at the root. -/
def symbol : Expr → Symbol
  | leaf d => .digit d
  | node op _ _ => .operator op

/-- The symbols in a given order, one for each node. -/
def symbols (order : Order) : Expr → List Symbol
  | leaf d => [.digit d]
  | node op left right =>
    match order with
    | .preorder => .operator op :: (left.symbols order ++ right.symbols order)
    | .inorder => left.symbols order ++ .operator op :: right.symbols order
    | .postorder => left.symbols order ++ right.symbols order ++ [.operator op]

/-- The written form in a given order. -/
def written (order : Order) (e : Expr) : List Char :=
  (e.symbols order).map Symbol.toChar

/-- The value, computed bottom-up with the first written operand on the left. -/
def value {α : Type} (arithmetic : Arithmetic α) : Expr → α
  | leaf d => arithmetic.digit d
  | node op left right => op.apply arithmetic (left.value arithmetic) (right.value arithmetic)

theorem length_symbols (order : Order) (e : Expr) : (e.symbols order).length = e.size := by
  induction e with
  | leaf d => rfl
  | node op left right ihLeft ihRight =>
    cases order <;> simp_all [symbols, size] <;> omega

end Expr

end PolishCalc
