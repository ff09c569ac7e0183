import PolishCalc.Tree

/-!
# Reading a tree

A text is read in one pass from its last character to its first. A digit becomes a leaf on top of a
stack of finished trees; an operator takes the two topmost trees, the upper one as its left operand.
What is left on the stack at the end are the maximal expressions of the text, the first one on top:
it becomes the tree, and the others are pruned (lenient reading) or refused (strict reading).
-/

namespace PolishCalc

/-- The state of a reading: the nodes so far, and the roots of the finished trees. -/
structure Scan where
  store : Store := {}
  stack : List Index := []

namespace Scan

/-- Adds a node on top of the given stack. -/
def push (store : Store) (stack : List Index) (node : Node) : Scan :=
  let top := store.next
  { store := store.insert node, stack := top :: stack }

/-- Takes in one character with its column. -/
def step (state : Scan) : Char × Nat → Except ExprError Scan
  | (c, position) =>
    match Symbol.ofChar? c with
    | none => .error (.invalidCharacter c position)
    | some (.digit d) => .ok (push state.store state.stack (.leaf d))
    | some (.operator op) =>
      match state.stack with
      -- the text is read backwards, so the operand written first is on top
      | left :: right :: rest => .ok (push state.store rest (.operator op left right))
      | _ => .error (.stackUnderflow c position)

/-- Takes in a text, last character first. -/
def run (text : List Char) : Except ExprError Scan :=
  text.zipIdx.reverse.foldlM step {}

/-- Makes the top of the stack the root. The rest of the stack is refused by a strict reading; a
lenient one prunes it, the lowest entry first. -/
def finish (strict : Bool) (state : Scan) : Except ExprError Tree :=
  match state.stack with
  | [] => .error .emptyExpression
  | root :: rest =>
    if strict && !rest.isEmpty then
      .error (.malformedExpression rest.length)
    else
      let store := rest.reverse.foldl (fun store stray => store.prune [stray]) state.store
      .ok { store, root := some root }

end Scan

/-- Reads the tree of a text. -/
def Tree.read (strict : Bool) (text : String) : Except ExprError Tree :=
  if text.isEmpty then
    .error .emptyExpression
  else do
    (← Scan.run text.toList).finish strict

end PolishCalc
