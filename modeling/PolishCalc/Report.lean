import PolishCalc.Tree.Scan
import PolishCalc.Tree.Traversal
import PolishCalc.Decimal.Layout
import PolishCalc.Settings.Basic
import PolishCalc.RunError
import PolishCalc.Host.Script

/-!
# Reports

A successful run of an expression gives a report: the three written forms of its tree and its value.
The report is written as four lines with empty lines between them; the last one tells the value.
-/

namespace PolishCalc

/-- Results are written with their shortest digits, plainly from a thousandth up to ten millions and
with an exponent elsewhere, or with at most 65535 fixed places. -/
def resultLayout : Decimal.Layout where
  exponentMark := 'E'
  plainFrom := -3
  plainBelow := 7
  maxPlaces := 65535
  nan := "NaN"
  infinity := "Infinity"

/-- The text of a value; `none` if it cannot have so many places. -/
def formatValue (value : Float) (precision : Option Nat) : Option String :=
  resultLayout.text? precision (.ofFloat value)

/-- What is written after every run that failed. -/
def usageHint : String :=
  "Please make sure your expression is a valid prefix expression using single digits (0-9) and " ++
    "operators (+, -, *, /)."

/-- The outcome of a successful run. -/
structure Report where
  expression : String
  prefixForm : String
  infixForm : String
  postfixForm : String
  value : Float

namespace Report

/-- The report on a tree that was read from a text. -/
def ofTree (expression : String) (tree : Tree) : Except ExprError Report := do
  return {
    expression
    prefixForm := ← tree.render .preorder
    infixForm := ← tree.render .inorder
    postfixForm := ← tree.render .postorder
    value := ← tree.evaluate .binary64 }

/-- Reads, evaluates and writes an expression in all orders. -/
def ofText (strict : Bool) (expression : String) : Except ExprError Report := do
  ofTree expression (← Tree.read strict expression)

/-- The last line of a report. -/
def resultLine? (report : Report) (precision : Option Nat) : Option String := do
  let value ← formatValue report.value precision
  return "Result for the expression " ++ report.expression ++ " is: " ++ value

/-- Writes a report. The three written forms are out before the value is laid out. -/
def print {ε : Type} (report : Report) (precision : Option Nat) (onFailure : ε) :
    Script ε Unit := do
  Script.putLine ("Prefix form: " ++ report.prefixForm) onFailure
  Script.putLine "" onFailure
  Script.putLine ("Infix form: " ++ report.infixForm) onFailure
  Script.putLine "" onFailure
  Script.putLine ("Postfix form: " ++ report.postfixForm) onFailure
  Script.putLine "" onFailure
  match report.resultLine? precision with
  | some line => Script.putLine line onFailure
  -- the value cannot have so many places
  | none => .abort

end Report

/-- Runs an expression as it stands. -/
def runExpression (settings : Settings) (expression : String) : Except RunError Report :=
  (Report.ofText settings.strict expression).mapError .expression

/-- Runs an expression and writes the report, or the error with the hint. -/
def runAndReport (settings : Settings) (expression : String) : Script RunError Report :=
  match runExpression settings expression with
  | .ok report => do
    report.print settings.precision (.io "write report")
    return report
  | .error error => do
    Script.putLine ("Error: " ++ error.message) (.io "write error")
    Script.putLine usageHint (.io "write error")
    .fail error

end PolishCalc
