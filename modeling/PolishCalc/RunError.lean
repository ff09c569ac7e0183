import PolishCalc.Error

/-!
# Errors of runs

What can end a run, from the inside out: an error of the expression, of the configuration, or of
input and output; and for a whole command also arguments that do not fit, or an error that the user
has already been told. Each has a text for the user and an exit code.
-/

namespace PolishCalc

/-- The causes that end a run. -/
inductive RunError where
  | expression (cause : ExprError)
  /-- The configuration is refused. -/
  | config (message : String)
  /-- Input or output failed in what the context names. -/
  | io (context : String)
  deriving DecidableEq, Repr

namespace RunError

/-- The text that is shown to the user. -/
def message : RunError → String
  | expression cause => cause.message
  | config message => "config error: " ++ message
  | io context => "I/O error: " ++ context

/-- Whether the expression itself is at fault. -/
def isExpressionError : RunError → Bool
  | expression _ => true
  | _ => false

end RunError

/-- The exit codes of the program, by the customary numbers. -/
inductive ExitCode where
  | usage
  | data
  | ioFailure
  | config
  deriving DecidableEq, Repr

/-- The number of an exit code. -/
def ExitCode.toNat : ExitCode → Nat
  | usage => 64
  | data => 65
  | ioFailure => 74
  | config => 78

/-- The causes that end a command. -/
inductive CommandError where
  | application (cause : RunError)
  /-- The dialogue has already told the user. -/
  | reported (cause : RunError)
  | invalidArguments (reason : String)
  deriving DecidableEq, Repr

namespace CommandError

/-- The text that is shown to the user. -/
def message : CommandError → String
  | application cause => cause.message
  | reported cause => cause.message
  | invalidArguments reason => "invalid arguments: " ++ reason

/-- The exit code for a cause. -/
def exitCodeOf : RunError → ExitCode
  | .expression _ => .data
  | .config _ => .config
  | .io _ => .ioFailure

/-- The exit code of the program. -/
def exitCode : CommandError → ExitCode
  | application cause => exitCodeOf cause
  | reported cause => exitCodeOf cause
  | invalidArguments _ => .usage

/-- Whether the user has already been told. -/
def isReported : CommandError → Bool
  | reported _ => true
  | _ => false

/-- An error of the expression is followed by a hint, unless the user has already been told. -/
def needsUsageHint : CommandError → Bool
  | application cause => cause.isExpressionError
  | _ => false

end CommandError

end PolishCalc
