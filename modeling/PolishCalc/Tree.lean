import PolishCalc.Store

/-!
# Trees

A tree is a node store with the index of its root. The tree without a root is the empty tree. Depth,
value and the expression that a tree stands for are folds over the nodes below the root.
-/

namespace PolishCalc

/-- A node store with a root. -/
structure Tree where
  store : Store := {}
  root : Option Index := none

namespace Tree

/-- The tree without nodes. -/
def empty : Tree := {}

/-- The number of live nodes of the store. -/
def size (t : Tree) : Nat := t.store.count

/-- Whether the tree has no root. -/
def isEmpty (t : Tree) : Bool := t.root.isNone

/-- The node at the root. -/
def rootNode? (t : Tree) : Option Node :=
  t.root.bind t.store.get?

/-- The number of nodes on a longest path from the root; zero for the empty tree. -/
def depth (t : Tree) : Except ExprError Nat :=
  match t.root with
  | none => .ok 0
  | some root => t.store.fold (fun _ => 1) (fun _ left right => 1 + max left right) root

/-- The value of a tree, computed bottom-up. The empty tree has none. -/
def evaluate {α : Type} (arithmetic : Arithmetic α) (t : Tree) : Except ExprError α :=
  match t.root with
  | none => .error .emptyTree
  | some root => t.store.fold arithmetic.digit (fun op => op.apply arithmetic) root

/-- The expression that a tree stands for. -/
def toExpr (t : Tree) : Except ExprError Expr :=
  match t.root with
  | none => .error .emptyTree
  | some root => t.store.fold .leaf .node root

/-- The two ways down from an operator. -/
inductive Side where
  | left
  | right
  deriving DecidableEq, Repr

/-- The node that is reached from an index by going down a path. -/
def nodeBelow? (s : Store) : Index → List Side → Option Node
  | i, [] => s.get? i
  | i, side :: path =>
    match s.get? i with
    | some (.operator _ left right) =>
      nodeBelow? s (match side with | .left => left | .right => right) path
    | _ => none

/-- The node at the end of a path from the root. -/
def nodeAt? (t : Tree) (path : List Side) : Option Node :=
  t.root.bind fun root => nodeBelow? t.store root path

end Tree

end PolishCalc
