import PolishCalc.Expr

/-!
# Invocations

What a command line asks for, once it is understood, and the causes for which it is not.
-/

namespace PolishCalc

/-- The shells for which completions can be written. -/
inductive Shell where
  | bash
  | elvish
  | fish
  | powershell
  | zsh
  deriving DecidableEq, Repr

namespace Shell

/-- All shells. -/
def all : List Shell := [bash, elvish, fish, powershell, zsh]

/-- The name of a shell. -/
def name : Shell → String
  | bash => "bash"
  | elvish => "elvish"
  | fish => "fish"
  | powershell => "powershell"
  | zsh => "zsh"

/-- The shell with a given name. -/
def ofName? (text : String) : Option Shell :=
  all.find? fun shell => shell.name == text

/-- A script that completes nothing, for runs without a generator of completions: a comment. -/
def noCompletion (shell : Shell) : String :=
  "# no completions for " ++ shell.name ++ "\n"

theorem ofName?_name (shell : Shell) : ofName? shell.name = some shell := by
  cases shell <;> rfl

end Shell

/-- What the program is asked to do. -/
inductive Command where
  /-- Run an expression, or the sample. -/
  | eval (expression : Option String)
  /-- Write an expression in one order. -/
  | render (expression : String) (order : Order)
  /-- Draw the tree of an expression. -/
  | tree (expression : String)
  /-- Ask for an expression. -/
  | interactive
  /-- Write the settings. -/
  | configShow
  /-- Write where the configuration files are. -/
  | configPath
  /-- Make a configuration file, over an existing one only if forced. -/
  | configInit (force : Bool)
  /-- Write the completions for a shell. -/
  | completion (shell : Shell)
  deriving DecidableEq, Repr

/-- A command with the options that every command has. Without a command the program is
interactive. -/
structure Invocation where
  /-- How often more diagnostics were asked for. -/
  debug : Nat := 0
  /-- The path of an explicit configuration file. -/
  config : Option String := none
  strict : Bool := false
  command : Option Command := none
  deriving DecidableEq, Repr

/-- The causes for which a command line is not run: it is not understood, or it asks for a text
about the program instead. -/
inductive UsageError where
  | unknownArgument
  | invalidSubcommand
  /-- A value is missing, empty, or none of the possible ones. -/
  | invalidValue
  /-- A flag was given a value. -/
  | tooManyValues
  /-- An option was given twice. -/
  | argumentConflict
  | missingRequiredArgument
  | missingSubcommand
  /-- Help is shown because nothing at all was asked for. -/
  | helpInsteadOfNothing
  | helpRequested
  /-- The version is asked for, of the program or of a command. -/
  | versionRequested (text : String)
  deriving DecidableEq, Repr

/-- The exit code for a command line that is not run. -/
def UsageError.exitCode : UsageError → Nat
  | helpRequested => 0
  | versionRequested _ => 0
  | _ => 2

end PolishCalc
