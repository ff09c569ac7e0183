import PolishCalc.CommandLine.Help
import PolishCalc.CommandLine.Parser
import PolishCalc.Execution

/-!
# The program

The program as a whole reads its words, runs the script they ask for, and tells about a failure on
the error stream unless the user has already been told. `Program.plan` is what comes before the
script, `Program.conclude` what comes after it, and `Program.run` puts them around a run on a
machine.
-/

namespace PolishCalc

namespace Program

/-- What the program does with its words. -/
inductive Plan where
  /-- Writes a text to the output and ends. -/
  | answer (text : String)
  /-- Writes a text to the error stream and ends with an exit code. -/
  | refuse (text : String) (exitCode : Nat)
  /-- Writes a note, which may be empty, to the error stream and runs a script. -/
  | run (note : String) (script : Script CommandError Unit)

/-- How the program ends: what it told on the error stream, and its exit code. What the runtime adds
about a run that ends without an answer is not part of it. -/
structure Ending where
  told : String
  exitCode : Nat
  deriving DecidableEq, Repr

/-- The exit code of a run that ends without an answer. -/
def abortCode : Nat := 101

/-- What the runtime tells about a number that cannot be laid out. -/
def abortMessage : String := "Formatting argument out of range"

/-- The largest meaningful count of the debug flag. -/
def maxDebug : Nat := 3

/-- What is told about the count of the debug flag. -/
def debugNote (count : Nat) : String :=
  if count ≤ maxDebug then "" else "Don't be crazy, max is -d -d -d\n"

/-- What the program does with the words after its name. -/
def plan (surroundings : Surroundings) (words : List String) : Plan :=
  match CommandLine.parse words with
  | .ok invocation => .run (debugNote invocation.debug) (invocation.execute surroundings)
  | .error error =>
    if error.exitCode = 0 then .answer error.message else .refuse error.message error.exitCode

/-- How the program ends after a failure: the error and the hint, each once and only if they are
due. -/
def fail (color : Bool) (error : CommandError) : Ending where
  told :=
    (if error.isReported then "" else Console.error color error.message) ++
      (if error.needsUsageHint then Console.hint color usageHint else "")
  exitCode := error.exitCode.toNat

/-- How the program ends after a run. -/
def conclude (color : Bool) : Outcome CommandError Unit → Ending
  | .done () => { told := "", exitCode := 0 }
  | .failed error => fail color error
  | .aborted => { told := "", exitCode := abortCode }

/-- Runs the program on a machine. -/
def run (surroundings : Surroundings) (words : List String) (machine : Machine) :
    Ending × Machine :=
  match plan surroundings words with
  | .answer text =>
    ({ told := "", exitCode := 0 },
      { machine with output := (machine.output.write (Text.encode text)).1 })
  | .refuse text exitCode => ({ told := text, exitCode }, machine)
  | .run note script =>
    let (outcome, machine) := script.run machine
    let ending := conclude surroundings.color outcome
    ({ ending with told := note ++ ending.told }, machine)

end Program

end PolishCalc
