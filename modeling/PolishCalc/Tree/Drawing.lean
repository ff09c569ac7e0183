import PolishCalc.Tree

/-!
# Drawings

The shape of a tree as indented lines, one node to a line in prefix order. A line starts with a
guide for every step from the root: below a left operand a bar goes on to the right one, below a
right operand there is nothing, and the last step is a branch or a corner.
-/

namespace PolishCalc

namespace Drawing

/-- The marks of the last step to a node. -/
def branch : String := "├── "

/-- The mark of the last step to a right operand. -/
def corner : String := "└── "

/-- The guide of an earlier step to a left operand. -/
def bar : String := "│   "

/-- The guide of an earlier step to a right operand. -/
def blank : String := "    "

/-- Puts one mark before the first line and another before the lines after it. -/
def hang (first later : String) : List String → List String
  | [] => []
  | line :: lines => (first ++ line) :: lines.map (later ++ ·)

/-- The lines of an operator from the lines of its operands. -/
def join (op : Operator) (left right : List String) : List String :=
  op.toChar.toString :: (hang branch bar left ++ hang corner blank right)

end Drawing

namespace Tree

/-- The lines of the drawing of a tree. -/
def drawing (t : Tree) : Except ExprError (List String) :=
  match t.root with
  | none => .ok ["Empty tree"]
  | some root => t.store.fold (fun d => [(digitChar d).toString]) Drawing.join root

/-- The drawing as a text in which every line is ended. -/
def drawingText (t : Tree) : Except ExprError String := do
  return String.join ((← t.drawing).map (· ++ "\n"))

end Tree

end PolishCalc
