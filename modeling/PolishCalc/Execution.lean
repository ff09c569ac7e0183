import PolishCalc.CommandLine.Invocation
import PolishCalc.Console
import PolishCalc.Dialogue
import PolishCalc.Settings.Load
import PolishCalc.Tree.Drawing

/-!
# Execution of commands

Each command is a script. Completions, `config path` and `config init` work without any readable
configuration; all other commands load the settings first, and the strict option makes them strict.
Only `config init` has a step that changes files.
-/

namespace PolishCalc

namespace Execution

/-- Input or output failed in what the context names. -/
def ioError (context : String) : CommandError :=
  .application (.io context)

/-- A result of reading an expression. -/
def ofExpr {α : Type} (result : Except ExprError α) : Script CommandError α :=
  Script.ofExcept (result.mapError fun cause => .application (.expression cause))

/-- Writes the completions for a shell. Their generator does not go on without its output. -/
def completion (surroundings : Surroundings) (shell : Shell) : Script CommandError Unit :=
  Script.insist (surroundings.completion shell)

/-- Writes the report on an expression without the blanks around it, or on the sample as it is. -/
def eval (settings : Settings) (expression : Option String) : Script CommandError Unit := do
  let text := (expression.map Text.trim).getD settings.sample
  let report ← Script.ofExcept ((runExpression settings text).mapError .application)
  report.print settings.precision (ioError "write report")

/-- Writes an expression in one order. -/
def render (settings : Settings) (expression : String) (order : Order) :
    Script CommandError Unit := do
  let tree ← ofExpr (Tree.read settings.strict (Text.trim expression))
  let text ← ofExpr (tree.render order)
  Script.put (Console.info text) (ioError "write rendering")

/-- Draws the tree of an expression. -/
def tree (settings : Settings) (expression : String) : Script CommandError Unit := do
  let tree ← ofExpr (Tree.read settings.strict (Text.trim expression))
  let text ← ofExpr tree.drawingText
  Script.put text (ioError "write tree")

/-- An error that ends the dialogue. The dialogue tells the user about errors of the expression. -/
def dialogueError (cause : RunError) : CommandError :=
  if cause.isExpressionError then .reported cause else .application cause

/-- Asks for an expression and runs it. -/
def interactive (settings : Settings) : Script CommandError Unit := do
  let _report ← (runInteractive settings).mapError dialogueError
  return ()

/-- Writes the settings as a configuration file. -/
def configShow (settings : Settings) : Script CommandError Unit := do
  let text ← Script.ofExcept
    (settings.toToml.mapError fun cause => .application (Settings.refuse cause))
  Script.put (Console.info text) (ioError "write settings")

/-- What is said about the global configuration file. -/
def globalState (path : String) (found : Bool) : String :=
  path ++ (if found then "" else " (not found)")

/-- Writes where the configuration files are. -/
def configPath (surroundings : Surroundings) (explicit : Option String) :
    Script CommandError Unit := do
  let say (label message : String) : Script CommandError Unit :=
    Script.put (Console.action surroundings.color label message) (ioError "write config paths")
  match surroundings.globalConfig? with
  | some path => say "global" (globalState path (← Script.askPath path))
  | none => say "global" "unavailable (no home directory)"
  match explicit with
  | some path => say "explicit" path
  | none => return ()

/-- The path of the file that is to be made. -/
def newConfig (surroundings : Surroundings) (explicit : Option String) :
    Except CommandError String :=
  match explicit.or surroundings.globalConfig? with
  | some path => .ok path
  | none => .error (.invalidArguments "no home directory; pass --config")

/-- Makes the directories above a path. -/
def makeParent (path : String) : Script CommandError Unit :=
  match Path.parent? path with
  | none => .done ()
  | some parent => .makeDirectories parent fun
    | true => .done ()
    | false => .fail (ioError ("create " ++ parent))

/-- Gives a file the content of a new configuration file. -/
def writeTemplate (path : String) : Script CommandError Unit :=
  .writeFile path Settings.template fun
    | true => .done ()
    | false => .fail (ioError ("write " ++ path))

/-- Makes a configuration file, over an existing one only if forced. -/
def configInit (surroundings : Surroundings) (explicit : Option String) (force : Bool) :
    Script CommandError Unit := do
  let path ← Script.ofExcept (newConfig surroundings explicit)
  let taken ← Script.askPath path
  if taken && !force then
    .fail (.invalidArguments (path ++ " already exists (use --force to overwrite)"))
  else
    makeParent path
    writeTemplate path
    Script.put (Console.success surroundings.color ("Created " ++ path)) (ioError "write status")

end Execution

namespace Invocation

/-- The settings of an invocation: the loaded ones, made strict by the option. -/
def settings (invocation : Invocation) (surroundings : Surroundings) :
    Script CommandError Settings := do
  let loaded ← (Settings.load surroundings invocation.config).mapError .application
  return { loaded with strict := loaded.strict || invocation.strict }

/-- Does what an invocation asks for. -/
def execute (invocation : Invocation) (surroundings : Surroundings) : Script CommandError Unit :=
  match invocation.command with
  | some (.completion shell) => Execution.completion surroundings shell
  | some .configPath => Execution.configPath surroundings invocation.config
  | some (.configInit force) => Execution.configInit surroundings invocation.config force
  | some (.eval expression) => do
    Execution.eval (← invocation.settings surroundings) expression
  | some (.render expression order) => do
    Execution.render (← invocation.settings surroundings) expression order
  | some (.tree expression) => do
    Execution.tree (← invocation.settings surroundings) expression
  | some .configShow => do Execution.configShow (← invocation.settings surroundings)
  | some .interactive => do Execution.interactive (← invocation.settings surroundings)
  | none => do Execution.interactive (← invocation.settings surroundings)

end Invocation

end PolishCalc
