/-!
# Errors of expressions

Why a text is not an expression, or why a tree has no value. Each error ends the whole reading:
there is no partial tree.
-/

namespace PolishCalc

/-- The causes for which an expression is refused. -/
inductive ExprError where
  /-- There is no character at all. -/
  | emptyExpression
  /-- A character that is neither a digit nor an operator, with its column. -/
  | invalidCharacter (character : Char) (position : Nat)
  /-- An operator that is followed by fewer than two operands, with its column. -/
  | stackUnderflow (operator : Char) (position : Nat)
  /-- Operands without an operator, refused by the strict reading only. -/
  | malformedExpression (leftover : Nat)
  /-- A tree without nodes has no value. -/
  | emptyTree
  /-- The nodes below an index do not form a tree. No tree that was read from a text is so. -/
  | brokenTree
  deriving DecidableEq, Repr

namespace ExprError

/-- The text that is shown to the user. -/
def message : ExprError → String
  | emptyExpression => "Expression string cant be null or empty"
  | invalidCharacter character _ => s!"Invalid character in expression '{character}'"
  | stackUnderflow _ _ => "Underflow"
  | malformedExpression leftover =>
    s!"Malformed expression: {leftover} operand(s) left without an operator"
  | emptyTree => "cannot evaluate an empty tree"
  | brokenTree => "the nodes do not form a tree"

/-- The column of the offending character, counted in characters from zero. -/
def position? : ExprError → Option Nat
  | invalidCharacter _ position => some position
  | stackUnderflow _ position => some position
  | _ => none

end ExprError

end PolishCalc
