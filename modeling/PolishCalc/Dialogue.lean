import PolishCalc.Report
import PolishCalc.Text.Blank
import PolishCalc.Text.LowerCase

/-!
# The dialogue

The program asks whether the user wants to type an expression. On `y` or `yes`, in any case and with
any blanks around it, it asks for the expression and reads one more line; on any other answer it
announces the sample and runs that. Nothing is read beyond these lines.
-/

namespace PolishCalc

namespace Dialogue

/-- The question at the start. -/
def question : String :=
  "Would you like to enter your own prefix expression? (yes/no)"

/-- The note after the question. -/
def note : String :=
  "Note: only single-digit numbers (0-9) and operators (+, -, *, /) are supported."

/-- The request for an expression. -/
def request : String := "Enter your prefix expression:"

/-- The announcement of the sample. -/
def announcement (sample : String) : String :=
  "Using the default expression: " ++ sample

/-- Whether an answer accepts the offer. -/
def accepts (answer : String) : Bool :=
  let word := Text.lower answer
  word == "yes" || word == "y"

/-- Writes a line of the conversation. -/
def say (line : String) : Script RunError Unit :=
  Script.putLine line (.io "write prompt")

/-- Reads a line without the blanks around it. -/
def hear : Script RunError String := do
  return Text.trim (← Script.getLine (.io "read input"))

/-- Asks for the expression that is to be run. -/
def choose (settings : Settings) : Script RunError String := do
  say question
  say note
  if accepts (← hear) then
    say request
    hear
  else
    say (announcement settings.sample)
    return settings.sample

end Dialogue

/-- Asks for an expression and runs it. -/
def runInteractive (settings : Settings) : Script RunError Report := do
  let expression ← Dialogue.choose settings
  Script.putLine "" (.io "write report")
  runAndReport settings expression

end PolishCalc
